import Mathlib.Data.List.DropRight
import QuoteDesk.Diagnostic

/-!
# The latest diagnostics

A ring keeps the latest diagnostics recorded since it was last cleared, as many as its
capacity allows, in the order in which they came.  Asked for its latest ones up to a
limit, it gives no more than that, unless the limit is zero: then it gives all.
-/

namespace QuoteDesk

/-! ## Ends of lists -/

section Ends

variable {α : Type}

/-- Of the last entries only the oldest one can give way to a new one. -/
theorem rtake_concat_rtake (entries : List α) (entry : α) (count : Nat) :
    (entries.rtake count ++ [entry]).rtake count = (entries ++ [entry]).rtake count := by
  cases count with
  | zero => rw [List.rtake_zero, List.rtake_zero]
  | succ count =>
      have shorter : (entries.rtake (count + 1)).rtake count = entries.rtake count := by
        unfold List.rtake
        rw [List.drop_drop, List.length_drop]
        congr 1
        omega
      rw [List.rtake_concat_succ, List.rtake_concat_succ, shorter]

theorem rtake_of_length_le {entries : List α} {count : Nat}
    (enough : entries.length ≤ count) : entries.rtake count = entries := by
  rw [List.rtake, Nat.sub_eq_zero_of_le enough, List.drop_zero]

theorem length_rtake (entries : List α) (count : Nat) :
    (entries.rtake count).length = min count entries.length := by
  rw [List.rtake, List.length_drop]
  omega

end Ends

/-! ## What is recorded -/

/-- What is done with a ring. -/
inductive RingAct where
  | record (diagnostic : Diagnostic)
  | clear

namespace RingAct

def recorded? : RingAct → Option Diagnostic
  | .record diagnostic => some diagnostic
  | .clear => none

/-- The diagnostics that were recorded behind the last clearing. -/
def sinceClear (acts : List RingAct) : List Diagnostic :=
  (acts.rtakeWhile fun act => act.recorded?.isSome).filterMap recorded?

theorem sinceClear_record (acts : List RingAct) (diagnostic : Diagnostic) :
    sinceClear (acts ++ [.record diagnostic]) = sinceClear acts ++ [diagnostic] := by
  unfold sinceClear
  rw [List.rtakeWhile_concat_pos _ _ _ rfl, List.filterMap_append]
  rfl

theorem sinceClear_clear (acts : List RingAct) : sinceClear (acts ++ [.clear]) = [] := by
  unfold sinceClear
  rw [List.rtakeWhile_concat_neg _ _ _ Bool.false_ne_true]
  rfl

end RingAct

namespace DiagnosticRing

def act (ring : DiagnosticRing) : RingAct → DiagnosticRing
  | .record diagnostic => ring.record diagnostic
  | .clear => ring.clear

/-- A ring after some acts, one after the other. -/
def run (ring : DiagnosticRing) (acts : List RingAct) : DiagnosticRing :=
  acts.foldl act ring

/-! ## The kept diagnostics -/

theorem run_empty (capacity : Int) (acts : List RingAct) :
    run (empty capacity) acts =
      ⟨(max 10 capacity).toNat,
        (RingAct.sinceClear acts).rtake (max 10 capacity).toNat⟩ := by
  -- An act comes behind all others, so the induction goes along the ends of the list.
  induction acts using List.reverseRecOn with
  | nil =>
      have nothing : RingAct.sinceClear [] = [] := rfl
      rw [nothing, List.rtake_nil]
      rfl
  | append_singleton acts last inductionHypothesis =>
      rw [run, List.foldl_concat, ← run, inductionHypothesis]
      cases last with
      | record diagnostic =>
          rw [RingAct.sinceClear_record, ← rtake_concat_rtake]
          rfl
      | clear =>
          rw [RingAct.sinceClear_clear, List.rtake_nil]
          rfl

/-! ## The latest of them -/

section Tail

variable (ring : DiagnosticRing)

theorem tail_zero : ring.tail (some 0) = ring.kept := by
  rw [tail]
  simp

theorem tail_of_ne_zero {limit : Nat} (nonzero : limit ≠ 0) :
    ring.tail (some limit) = ring.kept.rtake (min limit ring.kept.length) := by
  rw [tail]
  by_cases enough : ring.kept.length ≤ limit
  · have all : ring.kept.length ≤ min limit ring.kept.length := Nat.le_min.mpr ⟨enough, le_rfl⟩
    rw [if_pos (by simp [enough]), rtake_of_length_le all]
  · rw [if_neg (by simp [enough, nonzero]), if_neg (by omega), Int.toNat_natCast,
      Nat.min_eq_left (Nat.le_of_not_le enough), List.rtake]

/-- A tail keeps to its limit unless this is zero and something is kept. -/
theorem length_tail_le_iff (limit : Nat) :
    (ring.tail (some limit)).length ≤ limit ↔ limit ≠ 0 ∨ ring.kept = [] := by
  by_cases zero : limit = 0
  · subst zero
    rw [Int.natCast_zero, tail_zero, Nat.le_zero, List.length_eq_zero_iff]
    exact (or_iff_right fun nonzero => nonzero rfl).symm
  · rw [tail_of_ne_zero ring zero, length_rtake]
    exact iff_of_true (by omega) (.inl zero)

end Tail

/-- Whatever is recorded and cleared, the ring keeps in order the last diagnostics since
the last clearing, up to its capacity or ten, whichever is more.  Asked for at most some
of them, it gives the last ones, and no more than asked for, unless nothing was asked
for and there is something: then it gives all. -/
theorem run_keeps_last_and_tail_iff (capacity : Int) (acts : List RingAct) :
    let ring := run (empty capacity) acts
    ring.kept = (RingAct.sinceClear acts).rtake (max 10 capacity).toNat ∧
      ∀ limit : Nat,
        (ring.tail (some limit) = ring.kept.rtake (min limit ring.kept.length) ↔
          limit ≠ 0 ∨ ring.kept = []) ∧
        ((ring.tail (some limit)).length ≤ limit ↔ limit ≠ 0 ∨ ring.kept = []) ∧
        (limit = 0 → ring.tail (some limit) = ring.kept) := by
  intro ring
  refine ⟨congrArg kept (run_empty capacity acts), fun limit => ?_⟩
  refine ⟨?_, ring.length_tail_le_iff limit, ?_⟩
  · by_cases zero : limit = 0
    · subst zero
      rw [Int.natCast_zero, tail_zero, Nat.zero_min, List.rtake_zero]
      exact (or_iff_right fun nonzero => nonzero rfl).symm
    · exact iff_of_true (ring.tail_of_ne_zero zero) (.inl zero)
  · rintro rfl
    exact ring.tail_zero

/-- One diagnostic is recorded and none asked for. -/
theorem not_every_tail_within_limit :
    ¬ ∀ (capacity : Int) (acts : List RingAct) (limit : Nat),
      let ring := run (empty capacity) acts
      ring.tail (some limit) = ring.kept.rtake (min limit ring.kept.length) ∧
        (ring.tail (some limit)).length ≤ limit := by
  intro within
  have none := (within 10 [.record ⟨.lookupMiss, "ADD_TO_QUOTE", .text "A-1", []⟩] 0).2
  exact absurd none (by decide)

end DiagnosticRing

end QuoteDesk
