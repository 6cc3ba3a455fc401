import AvcPipeline.Playback.Handover
import AvcPipeline.Proofs.Device.Raced
import Mathlib.Logic.Relation

/-!
# In whatever order the sides take turns

What is in the queue and what is still to be read make up what the submitting side has yet to take,
and no step of either side changes what comes of it. So each order of the steps ends as the
deliveries submitted one after the other would, with the same calls.
-/

namespace AvcPipeline

open Program Raced

namespace Playback

variable {sender : Sender} {s s' : Session} {x : Raced Device} {list : List Delivery}

def unsent : Option Sender → List Delivery
  | none => []
  | some sender => deliveriesFrom sender.grouper sender.index sender.units

def Receiver.takeAll (list : List Delivery) : Receiver → Action (Option Failure × Session)
  | .receiving s => submitAll true s list
  | .ended stopped s => return (stopped, s)

theorem submitAll_cons (s : Session) (delivery : Delivery) (list : List Delivery) :
    submitAll true s (delivery :: list) = receive s delivery >>= Receiver.takeAll list := by
  cases delivery with
  | unreadable index e => rfl
  | picture u =>
    rw [receive, bind_bind, submitAll]
    congr 1
    funext done
    by_cases hrefused : done.1 = .needKeyframe
    · simp only [hrefused, Bool.true_and, decide_true, if_true]
      rfl
    · simp only [hrefused, Bool.true_and, decide_false, if_false, Bool.false_eq_true]
      rfl

theorem submitAll_unreadable (s : Session) (list more : List Delivery) (index : Nat)
    (e : Nal.Error) : submitAll true s (list ++ .unreadable index e :: more) =
      submitAll true s (list ++ [.unreadable index e]) := by
  induction list generalizing s with
  | nil => rfl
  | cons delivery list ih =>
    rw [List.cons_append, submitAll_cons, List.cons_append, submitAll_cons]
    congr 1
    funext receiver
    cases receiver with
    | receiving s => exact ih s
    | ended stopped s => rfl

theorem submitAll_next (s : Session) (list : List Delivery) (sender : Sender) :
    submitAll true s (list ++ sender.next.1.toList ++ unsent sender.next.2) =
      submitAll true s (list ++ unsent (some sender)) := by
  obtain ⟨grouper, index, units⟩ := sender
  rw [List.append_assoc]
  cases units with
  | nil =>
    simp only [Sender.next, unsent, deliveriesFrom, List.append_nil]
    cases grouper.flush.1 <;> rfl
  | cons unit rest =>
    cases hpush : grouper.push unit with
    | error e =>
      simp only [Sender.next, unsent, deliveriesFrom, hpush]
      exact (submitAll_unreadable s list _ index e).symm
    | ok result =>
      obtain ⟨completed, grouper'⟩ := result
      simp only [Sender.next, unsent, deliveriesFrom, hpush]
      cases completed <;> rfl

namespace Handover

variable {depth : Nat} {h h' : Handover}

/-- The result, the calls and the device, if the submitting side took what is left. -/
def outcome (h : Handover) : ((Option Failure × Session) × List CallEvent) × Raced Device :=
  let rest := (h.receiver.takeAll (h.queue ++ unsent h.sender)).trace simulation h.device
  ((rest.1.1, h.calls ++ rest.1.2), rest.2)

theorem outcome_of_done {result : Option Failure × Session}
    (hrest : h.receiver.takeAll (h.queue ++ unsent h.sender) = pure result) :
    h.outcome = ((result, h.calls), h.device) := by
  rw [outcome, hrest]
  change ((_, h.calls ++ []), _) = _
  rw [List.append_nil]
  rfl

theorem outcome_ended {stopped : Option Failure} (hended : h.receiver = .ended stopped s) :
    h.outcome = (((stopped, s), h.calls), h.device) :=
  outcome_of_done (by rw [hended]; rfl)

theorem Step.outcome (hstep : Step depth h h') : h'.outcome = h.outcome := by
  cases hstep with
  | @send sender s hsender hreceiver hroom =>
    rw [Handover.outcome, Handover.outcome, hreceiver, hsender]
    simp only [Receiver.takeAll, submitAll_next]
  | hangUp hsender hreceiver =>
    rw [outcome_ended hreceiver]
    exact outcome_ended hreceiver
  | @take s delivery rest hreceiver hqueue =>
    rw [Handover.outcome, Handover.outcome, hreceiver, hqueue]
    simp only [Receiver.takeAll, List.cons_append, submitAll_cons, trace_bind, taking,
      List.append_assoc]
  | @finish s hsender hqueue hreceiver =>
    have hrest : h.receiver.takeAll (h.queue ++ unsent h.sender) = pure (none, s) := by
      rw [hreceiver, hqueue, hsender]
      rfl
    exact (outcome_ended rfl).trans (outcome_of_done hrest).symm

/-! ## Both sides end -/

def unread : Option Sender → Nat
  | none => 0
  | some sender => sender.units.length + 1

theorem unread_next (sender : Sender) : unread sender.next.2 < unread (some sender) := by
  obtain ⟨grouper, index, units⟩ := sender
  cases units with
  | nil => exact Nat.one_pos
  | cons unit rest =>
    cases hpush : grouper.push unit with
    | error e =>
      simp only [Sender.next, hpush]
      exact Nat.succ_pos _
    | ok result =>
      simp only [Sender.next, hpush]
      exact Nat.lt_succ_self _

def cost (h : Handover) : Nat :=
  2 * unread h.sender + h.queue.length +
    match h.receiver with
    | .receiving _ => 1
    | .ended _ _ => 0

theorem Step.cost_lt (hstep : Step depth h h') : h'.cost < h.cost := by
  cases hstep with
  | @send sender s hsender hreceiver hroom =>
    have hread := unread_next sender
    have hone : sender.next.1.toList.length ≤ 1 := Option.length_toList_le
    simp only [cost, hsender, hreceiver, List.length_append]
    omega
  | @hangUp sender stopped s hsender hreceiver =>
    have hread := unread_next sender
    simp only [cost, hsender, hreceiver]
    split
    · rw [unread, unread]
      omega
    · omega
  | @take s delivery rest hreceiver hqueue =>
    simp only [cost, taking, hreceiver, hqueue, List.length_cons]
    split <;> omega
  | @finish s hsender hqueue hreceiver =>
    simp only [cost, hreceiver]
    omega

theorem exists_step (hdepth : 0 < depth) (h : Handover)
    (hsides : h.sender ≠ none ∨ ∃ s, h.receiver = .receiving s) : ∃ next, Step depth h next := by
  cases hreceiver : h.receiver with
  | receiving s =>
    cases hqueue : h.queue with
    | cons delivery rest => exact ⟨_, .take hreceiver hqueue⟩
    | nil =>
      cases hsender : h.sender with
      | none => exact ⟨_, .finish hsender hqueue hreceiver⟩
      | some sender => exact ⟨_, .send hsender hreceiver fun _ => by rwa [hqueue]⟩
  | ended stopped s =>
    cases hsender : h.sender with
    | none =>
      rcases hsides with hsides | ⟨s, hsides⟩
      · exact absurd hsender hsides
      · cases hreceiver.symm.trans hsides
    | some sender => exact ⟨_, .hangUp hsender hreceiver⟩

/-- In whatever order the sides take their steps, both end, and this is what came of it. -/
structure EndsAs (depth : Nat) (h : Handover)
    (outcome : ((Option Failure × Session) × List CallEvent) × Raced Device) : Prop where
  ends : Acc (fun later earlier => Step depth earlier later) h
  ended : ∀ last, Relation.ReflTransGen (Step depth) h last → (∀ next, ¬ Step depth last next) →
    last.sender = none ∧ ∃ stopped s, last.receiver = .ended stopped s ∧
      outcome = (((stopped, s), last.calls), last.device)

theorem outcome_of_steps (hsteps : Relation.ReflTransGen (Step depth) h h') :
    h'.outcome = h.outcome := by
  induction hsteps with
  | refl => rfl
  | tail _ hstep ih => exact hstep.outcome.trans ih

theorem endsAs (hdepth : 0 < depth) (h : Handover) : h.EndsAs depth h.outcome where
  ends := by
    have hwf : WellFounded fun later earlier : Handover => Step depth earlier later :=
      Subrelation.wf Step.cost_lt (measure cost).wf
    exact hwf.apply h
  ended last hsteps hlast := by
    have hsides : ¬ (last.sender ≠ none ∨ ∃ s, last.receiver = .receiving s) :=
      fun hsides => (exists_step hdepth last hsides).elim hlast
    obtain ⟨hsender, hreceiver⟩ := not_or.mp hsides
    refine ⟨Classical.not_not.mp hsender, ?_⟩
    cases hended : last.receiver with
    | receiving s => exact absurd ⟨s, hended⟩ hreceiver
    | ended stopped s =>
      exact ⟨stopped, s, rfl, (outcome_of_steps hsteps).symm.trans (outcome_ended hended)⟩

theorem start_endsAs (hdepth : 0 < depth) (stream : Bytes) (s : Session) (x : Raced Device) :
    (start stream s x).EndsAs depth ((submitAll true s (deliveries stream)).trace simulation x) :=
  endsAs hdepth (start stream s x)

end Handover
end Playback
end AvcPipeline
