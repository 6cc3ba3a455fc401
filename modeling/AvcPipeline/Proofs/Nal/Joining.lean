import AvcPipeline.Proofs.Nal.Framing

/-!
# Streams with every zero in its place

Joined units come back as they were exactly if none of them takes over the zero at the end of what
stands before it. `Parted` says so of a stream, its lead and its units, and every stream is parted
in this way by cutting it.
-/

namespace AvcPipeline.Nal

variable {stream lead unit next : Bytes} {pieces : List Bytes}

/-- The stream is this lead and these units joined, and no unit takes a zero over. -/
structure Parted (stream lead : Bytes) (pieces : List Bytes) : Prop where
  joined : stream = lead ++ pieces.flatten
  lacks : ¬ mark <:+: lead
  framed : ∀ unit ∈ pieces, Framed unit
  keeps : (lead :: pieces).IsChain fun unit next => ¬ TakesZero unit next

theorem flatten_recut (unit : Bytes) (pieces : List Bytes) :
    (recut unit pieces).flatten = unit ++ pieces.flatten := by
  induction pieces generalizing unit with
  | nil => simp only [recut, List.flatten_cons]
  | cons next rest ih =>
    rw [recut]
    by_cases htakes : TakesZero unit next
    · have hunit : unit.dropLast ++ [0] = unit := List.dropLast_append_getLast? 0 htakes.1
      rw [if_pos htakes, List.flatten_cons, ih, List.cons_append, List.append_cons, hunit,
        List.flatten_cons]
    · rw [if_neg htakes, List.flatten_cons, ih, List.flatten_cons]

theorem exists_recut (unit : Bytes) (pieces : List Bytes) :
    ∃ first later, recut unit pieces = first :: later ∧ first <+: unit := by
  cases pieces with
  | nil => exact ⟨unit, [], rfl, List.prefix_rfl⟩
  | cons next rest =>
    rw [recut]
    by_cases htakes : TakesZero unit next
    · rw [if_pos htakes]
      exact ⟨_, _, rfl, List.dropLast_prefix unit⟩
    · rw [if_neg htakes]
      exact ⟨_, _, rfl, List.prefix_rfl⟩

theorem isChain_recut (unit : Bytes) (pieces : List Bytes) :
    (recut unit pieces).IsChain fun unit next => ¬ TakesZero unit next := by
  induction pieces generalizing unit with
  | nil => exact List.isChain_singleton _
  | cons next rest ih =>
    rw [recut]
    by_cases htakes : TakesZero unit next
    · -- With the zero the start code is the longer one.
      obtain ⟨first, later, hrecut, hfirst⟩ := exists_recut (0 :: next) rest
      have hlater := ih (0 :: next)
      rw [hrecut] at hlater
      rw [if_pos htakes, hrecut]
      refine List.isChain_cons_cons.mpr ⟨?_, hlater⟩
      intro hagain
      obtain ⟨body, rfl⟩ := htakes.2
      exact not_mark_startCode body (hagain.2.trans hfirst)
    · obtain ⟨first, later, hrecut, hfirst⟩ := exists_recut next rest
      have hlater := ih next
      rw [hrecut] at hlater
      rw [if_neg htakes, hrecut]
      refine List.isChain_cons_cons.mpr ⟨?_, hlater⟩
      intro hagain
      exact htakes ⟨hagain.1, hagain.2.trans hfirst⟩

theorem parted_units (stream : Bytes) : ∃ lead, Parted stream lead (units stream) := by
  obtain ⟨lead, pieces, rfl, hlead, hpieces⟩ := exists_pieces stream
  obtain ⟨first, later, hrecut, hfirst⟩ := exists_recut lead pieces
  have hunits := units_append hlead hpieces
  have hjoined := flatten_recut lead pieces
  have hkeeps := isChain_recut lead pieces
  rw [hrecut, List.tail_cons] at hunits
  rw [hrecut] at hjoined hkeeps
  refine ⟨first, hjoined.symm.trans ?_, fun hmark => hlead (hmark.trans hfirst.isInfix),
    (units_keeps hlead hpieces).1, ?_⟩
  · rw [hunits, List.flatten_cons]
  · rwa [hunits]

theorem Parted.units_eq (h : Parted stream lead pieces) : units stream = pieces := by
  rw [h.joined, units_append h.lacks h.framed, recut_eq h.keeps]
  rfl

/-- Cutting undoes joining, unless a zero at the end of the lead or of a unit is followed by a start
code of three bytes. -/
theorem units_joined (hlead : ¬ mark <:+: lead) (hpieces : ∀ unit ∈ pieces, Framed unit) :
    units (lead ++ pieces.flatten) = pieces ↔
      (lead :: pieces).IsChain fun unit next => ¬ TakesZero unit next := by
  constructor
  · intro hunits
    obtain ⟨first, later, hrecut, -⟩ := exists_recut lead pieces
    have hlater : later = pieces := by
      rw [units_append hlead hpieces, hrecut] at hunits
      exact hunits
    subst hlater
    have hjoined := flatten_recut lead later
    have hkeeps := isChain_recut lead later
    rw [hrecut, List.flatten_cons] at hjoined
    rwa [hrecut, List.append_cancel_right hjoined] at hkeeps
  · intro hkeeps
    exact Parted.units_eq ⟨rfl, hlead, hpieces, hkeeps⟩

theorem units_joined_zeros :
    let pieces : List Bytes := [[0, 0, 0, 1, 103, 0], [0, 0, 0, 1], [0, 0, 1, 101, 128, 0, 0]]
    units ([5, 0] ++ pieces.flatten) = pieces := by
  intro pieces
  have hpieces : ∀ unit ∈ pieces, Framed unit := by
    simp only [pieces, List.forall_mem_cons]
    exact ⟨⟨startCode, [103, 0], .inr rfl, rfl, by decide⟩,
      ⟨startCode, [], .inr rfl, rfl, by decide⟩,
      ⟨mark, [101, 128, 0, 0], .inl rfl, rfl, by decide⟩, nofun⟩
  exact (units_joined (by decide) hpieces).mpr (by decide)

end AvcPipeline.Nal
