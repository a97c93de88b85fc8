import BackupConsole.Proofs.Console.Operation
import BackupConsole.Proofs.Script.Transcript

set_option autoImplicit false

namespace BackupConsole

open Wire Polling Step

namespace Console

theorem holds_polling {α : Type} {J : Transcript → Console → Prop} {script : Script Poll α}
    (holds : ∀ c : Console, script.Holds fun heard p => J heard { c with poll := p }) :
    (polling script).Holds J :=
  fun heard c now => (holds c heard c.poll now).within poll_with with_with

structure Held (J : Transcript → Console → Prop) : Prop where
  cycle : ∀ withJobList, (polling (Polling.cycle withJobList)).Holds J
  carryOut : ∀ order, (carryOut order).Holds J
  pump : ∀ {heard c}, J heard c → J heard c.pump.2
  applyNext : ∀ {heard c}, J heard c → J heard c.applyNext.2
  setSort : ∀ {heard c} key, J heard c → J heard (c.setSort key)
  aside : ∀ {heard c d}, d.board = c.board → d.table = c.table → d.poll.events = c.poll.events →
    J heard c → J heard d

namespace Held

variable {J : Transcript → Console → Prop} (held : Held J)
include held

theorem loopCycle (number : UInt64) (wait : Nat) : (loopCycle number wait).Holds J := by
  refine Script.holds_get.bind fun c => (held.cycle _).bind fun result => ?_
  cases result with
  | error stop => exact Script.holds_modify fun _ c now => held.aside (c := c) rfl rfl rfl now
  | ok done => exact Script.holds_modify fun _ c now => held.aside (c := c) rfl rfl rfl now

theorem elapseWithin (fuel time : Nat) : (elapseWithin fuel time).Holds J := by
  induction fuel generalizing time with
  | zero => exact Script.holds_pure ()
  | succ fuel ih =>
    refine Script.holds_get.bind fun c => ?_
    cases c.loop with
    | none => exact Script.holds_pure ()
    | some loop =>
      dsimp only
      split
      · exact Script.holds_modify fun _ c now => held.aside (c := c) rfl rfl rfl now
      · exact (held.loopCycle _ _).bind fun _ => ih _

theorem script {op : Operation} (choice : ∀ uuid, op = .select uuid → (select uuid).Holds J) :
    op.script.Holds J := by
  have pumps : pumpAll.Holds J := Script.holds_modify fun _ _ now => held.pump now
  cases op with
  | refresh =>
    have refresh : Console.refresh.Holds J :=
      (held.cycle true).bind fun result => pumps.bind fun _ => Script.holds_pure result
    exact refresh.bind fun _ => Script.holds_pure ()
  | cycle withJobList => exact (held.cycle withJobList).bind fun _ => Script.holds_pure ()
  | elapse time => exact held.elapseWithin _ time
  | select uuid => exact (choice uuid rfl).bind fun _ => Script.holds_pure ()
  | carryOut order => exact (held.carryOut order).bind fun _ => Script.holds_pure ()
  | pump => exact pumps
  | next => exact Script.holds_modify fun _ _ now => held.applyNext now
  | setSort key => exact Script.holds_modify fun _ _ now => held.setSort key now
  | start =>
    refine Script.holds_modify fun _ c now => held.aside (c := c) ?_ ?_ ?_ now <;>
      · unfold Console.start
        split <;> rfl
  | stop | subscribe _ | unsubscribe _ =>
    exact Script.holds_modify fun _ c now => held.aside (c := c) rfl rfl rfl now

end Held

end Console

end BackupConsole
