import AvcPipeline.Program

/-!
# Running programs

`run_bind` takes a run apart at its calls. `Ensures allowed post` says of a program that it makes
allowed calls only and ends in a result with `post`, whatever the replies are. Such a program keeps
everything that the allowed calls keep. `Follows spec` looks at all the calls together: whatever the
replies are, `spec` holds of the calls with their replies, in order, and of the result. `Replays`
puts the states of an interpreter beside such a list of calls.
-/

namespace AvcPipeline.Program

variable {C : Type} {R : C → Type} {α β σ : Type}

theorem run_bind (i : Interpreter C R σ) (p : Program C R α) (f : α → Program C R β)
    (s : σ) : (p >>= f).run i s = (f (p.run i s).1).run i (p.run i s).2 := by
  change (p.bind f).run i s = _
  induction p generalizing s with
  | done a => rfl
  | call c next ih => exact ih _ _

theorem bind_bind {γ : Type} (p : Program C R α) (f : α → Program C R β)
    (g : β → Program C R γ) : p >>= f >>= g = p >>= fun a => f a >>= g := by
  change (p.bind f).bind g = p.bind fun a => (f a).bind g
  induction p with
  | done a => rfl
  | call c next ih => exact congrArg (call c) (funext ih)

def Ensures (allowed : C → Prop) (post : α → Prop) : Program C R α → Prop
  | .done a => post a
  | .call c next => allowed c ∧ ∀ r, (next r).Ensures allowed post

variable {allowed : C → Prop} {post : α → Prop}

theorem ensures_pure {a : α} (h : post a) : (pure a : Program C R α).Ensures allowed post := h

theorem ensures_perform {c : C} {post : R c → Prop} (hc : allowed c) (h : ∀ r, post r) :
    (perform c : Program C R (R c)).Ensures allowed post :=
  ⟨hc, h⟩

theorem ensures_call {c : C} {f : R c → Program C R α} (hc : allowed c)
    (hf : ∀ r, (f r).Ensures allowed post) : (perform c >>= f).Ensures allowed post :=
  ⟨hc, hf⟩

theorem Ensures.allow {permitted : C → Prop} {p : Program C R α} (hp : p.Ensures allowed post)
    (h : ∀ c, allowed c → permitted c) : p.Ensures permitted post := by
  induction p with
  | done a => exact hp
  | call c next ih => exact ⟨h c hp.1, fun r => ih r (hp.2 r)⟩

theorem Ensures.mono {p : Program C R α} {goal : α → Prop} (hp : p.Ensures allowed post)
    (h : ∀ a, post a → goal a) : p.Ensures allowed goal := by
  induction p with
  | done a => exact h a hp
  | call c next ih => exact ⟨hp.1, fun r => ih r (hp.2 r)⟩

theorem Ensures.bind {p : Program C R α} {f : α → Program C R β} {goal : β → Prop}
    (hp : p.Ensures allowed post) (hf : ∀ a, post a → (f a).Ensures allowed goal) :
    (p >>= f).Ensures allowed goal := by
  change (p.bind f).Ensures allowed goal
  induction p with
  | done a => exact hf a hp
  | call c next ih => exact ⟨hp.1, fun r => ih r (hp.2 r)⟩

theorem Ensures.run {p : Program C R α} (hp : p.Ensures allowed post) {i : Interpreter C R σ}
    {γ : Type} {kept : σ → γ} (hkept : ∀ c s, allowed c → kept (i.answer c s).2 = kept s) (s : σ) :
    post (p.run i s).1 ∧ kept (p.run i s).2 = kept s := by
  induction p generalizing s with
  | done a => exact ⟨hp, rfl⟩
  | call c next ih =>
    obtain ⟨hpost, hrest⟩ := ih _ (hp.2 _) (i.answer c s).2
    exact ⟨hpost, hrest.trans (hkept c s hp.1)⟩

/-! ## All the calls together -/

def Follows : Program C R α → (List (Event C R) → α → Prop) → Prop
  | .done a, spec => spec [] a
  | .call c next, spec => ∀ r, (next r).Follows fun events a => spec (⟨c, r⟩ :: events) a

variable {spec goal : List (Event C R) → α → Prop}

theorem follows_pure {a : α} (h : spec [] a) : (pure a : Program C R α).Follows spec := h

theorem follows_call {c : C} {f : R c → Program C R α}
    (h : ∀ r, (f r).Follows fun events a => spec (⟨c, r⟩ :: events) a) :
    (perform c >>= f).Follows spec :=
  h

theorem Follows.mono {p : Program C R α} (hp : p.Follows spec)
    (h : ∀ events a, spec events a → goal events a) : p.Follows goal := by
  induction p generalizing spec goal with
  | done a => exact h [] a hp
  | call c next ih => exact fun r => ih r (hp r) fun events a => h (⟨c, r⟩ :: events) a

theorem Follows.bind {p : Program C R α} {f : α → Program C R β}
    {goal : List (Event C R) → β → Prop} (hp : p.Follows spec)
    (hf : ∀ events a, spec events a → (f a).Follows fun more b => goal (events ++ more) b) :
    (p >>= f).Follows goal := by
  change (p.bind f).Follows goal
  induction p generalizing spec goal with
  | done a => exact hf [] a hp
  | call c next ih => exact fun r => ih r (hp r) fun events a => hf (⟨c, r⟩ :: events) a

theorem Follows.and {p : Program C R α} (hp : p.Follows spec) (hp' : p.Follows goal) :
    p.Follows fun events a => spec events a ∧ goal events a := by
  induction p generalizing spec goal with
  | done a => exact ⟨hp, hp'⟩
  | call c next ih => exact fun r => ih r (hp r) (hp' r)

theorem Ensures.follows {p : Program C R α} (hp : p.Ensures allowed post) :
    p.Follows fun events a => (∀ e ∈ events, allowed e.1) ∧ post a := by
  induction p with
  | done a => exact ⟨nofun, hp⟩
  | call c next ih =>
    intro r
    refine (ih r (hp.2 r)).mono fun events a h => ⟨?_, h.2⟩
    rintro e (_ | ⟨_, he⟩)
    · exact hp.1
    · exact h.1 e he

theorem traceFrom_eq (i : Interpreter C R σ) (earlier : List (Event C R)) (p : Program C R α)
    (s : σ) : traceFrom i earlier p s =
      (((p.trace i s).1.1, earlier.reverse ++ (p.trace i s).1.2), (p.trace i s).2) := by
  induction p generalizing earlier s with
  | done a => simp only [trace, traceFrom, List.reverse_nil, List.append_nil]
  | call c next ih =>
    simp only [trace, traceFrom]
    rw [ih _ (_ :: earlier), ih _ [_]]
    simp only [List.reverse_cons, List.reverse_nil, List.nil_append, List.append_assoc]

theorem trace_call (i : Interpreter C R σ) (c : C) (next : R c → Program C R α) (s : σ) :
    let reply := i.answer c s
    let rest := (next reply.1).trace i reply.2
    trace i (.call c next) s = ((rest.1.1, ⟨c, reply.1⟩ :: rest.1.2), rest.2) :=
  traceFrom_eq i [_] _ _

theorem trace_bind (i : Interpreter C R σ) (p : Program C R α) (f : α → Program C R β) (s : σ) :
    let first := p.trace i s
    let rest := (f first.1.1).trace i first.2
    (p >>= f).trace i s = ((rest.1.1, first.1.2 ++ rest.1.2), rest.2) := by
  change (p.bind f).trace i s = _
  induction p generalizing s with
  | done a => rfl
  | call c next ih =>
    rw [Program.bind, trace_call, trace_call, ih]
    rfl

theorem trace_bind_congr {i : Interpreter C R σ} {p : Program C R α} {f g : α → Program C R β}
    {s : σ} (h : (f (p.trace i s).1.1).trace i (p.trace i s).2 =
      (g (p.trace i s).1.1).trace i (p.trace i s).2) :
    (p >>= f).trace i s = (p >>= g).trace i s := by
  rw [trace_bind, trace_bind, h]

theorem run_trace (i : Interpreter C R σ) (p : Program C R α) (s : σ) :
    p.run i s = ((p.trace i s).1.1, (p.trace i s).2) := by
  induction p generalizing s with
  | done a => rfl
  | call c next ih =>
    rw [trace_call]
    exact ih _ _

theorem Follows.trace {p : Program C R α} (hp : p.Follows spec) (i : Interpreter C R σ) (s : σ) :
    spec (p.trace i s).1.2 (p.trace i s).1.1 := by
  induction p generalizing spec s with
  | done a => exact hp
  | call c next ih =>
    rw [trace_call]
    exact ih _ (hp _) _

theorem Follows.run {p : Program C R α} (hp : p.Follows spec) (i : Interpreter C R σ) (s : σ) :
    ∃ events, spec events (p.run i s).1 := by
  rw [run_trace]
  exact ⟨_, hp.trace i s⟩

/-! ## States along the calls -/

/-- Making these calls in order, the interpreter gives these replies and goes from `s` to `s'`. -/
def Replays (i : Interpreter C R σ) : List (Event C R) → σ → σ → Prop
  | [], s, s' => s = s'
  | ⟨c, r⟩ :: rest, s, s' => (i.answer c s).1 = r ∧ Replays i rest (i.answer c s).2 s'

variable {i : Interpreter C R σ} {events : List (Event C R)} {s s' : σ}

theorem replays_trace (i : Interpreter C R σ) (p : Program C R α) (s : σ) :
    Replays i (p.trace i s).1.2 s (p.trace i s).2 := by
  induction p generalizing s with
  | done a => rfl
  | call c next ih =>
    rw [trace_call]
    exact ⟨rfl, ih _ _⟩

theorem Replays.append {more : List (Event C R)} {s'' : σ} (h : Replays i events s s')
    (h' : Replays i more s' s'') : Replays i (events ++ more) s s'' := by
  induction events generalizing s with
  | nil =>
    cases h
    exact h'
  | cons e events ih => exact ⟨h.1, ih h.2⟩

theorem Replays.of_append {more : List (Event C R)} {s'' : σ}
    (h : Replays i (events ++ more) s s'') :
    ∃ s', Replays i events s s' ∧ Replays i more s' s'' := by
  induction events generalizing s with
  | nil => exact ⟨s, rfl, h⟩
  | cons e events ih =>
    obtain ⟨s', hfirst, hmore⟩ := ih h.2
    exact ⟨s', ⟨h.1, hfirst⟩, hmore⟩

theorem Follows.replays {p : Program C R α} (hp : p.Follows spec) (i : Interpreter C R σ) (s : σ) :
    ∃ events, spec events (p.run i s).1 ∧ Replays i events s (p.run i s).2 := by
  rw [run_trace]
  exact ⟨_, hp.trace i s, replays_trace i p s⟩

/-- A part of the state on which each call has an effect of its own. -/
theorem Replays.view {γ : Type} {after : C → γ → γ} (h : Replays i events s s') (view : σ → γ)
    (hview : ∀ c s, view (i.answer c s).2 = after c (view s)) :
    view s' = events.foldl (fun v e => after e.1 v) (view s) := by
  induction events generalizing s with
  | nil =>
    cases h
    rfl
  | cons e events ih => rw [List.foldl_cons, ih h.2, hview]

/-- What every call keeps holds at the end, and it held when each reply was given. -/
theorem Replays.keeps {kept : σ → Prop} (h : Replays i events s s') (hs : kept s)
    (hkept : ∀ e ∈ events, ∀ s, kept s → kept (i.answer e.1 s).2) :
    kept s' ∧ ∀ e ∈ events, ∃ t, kept t ∧ (i.answer e.1 t).1 = e.2 := by
  induction events generalizing s with
  | nil =>
    cases h
    exact ⟨hs, nofun⟩
  | cons e events ih =>
    obtain ⟨hfirst, hlater⟩ := List.forall_mem_cons.mp hkept
    obtain ⟨hend, hreplies⟩ := ih h.2 (hfirst s hs) hlater
    exact ⟨hend, List.forall_mem_cons.mpr ⟨⟨s, hs, h.1⟩, hreplies⟩⟩

end AvcPipeline.Program
