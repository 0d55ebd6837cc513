import Mathlib.Data.List.Infix
import SchoolRegistry.Proofs.Time.DayText
import SchoolRegistry.Value.Document

/-!
# Lists and the texts of their documents

A database keeps a list of terms as the text of a document and sorts by this text. In the text a
comma follows every member but the last, which a bracket follows, and the bracket sorts behind the
comma and behind the quotation mark that opens a member. So the texts sort as the lists do, member
by member, except that a list stands behind the lists that it is the beginning of
(`compare_listText`). Two lists sort the other way round exactly if one of them is a proper
beginning of the other (`opposed_longerFirst_iff`).

This needs that the members are quoted as they are, and that none of their characters sorts before
the quotation mark that closes them (`Text.IsQuotable`).
-/

namespace SchoolRegistry

open Std

/-! ## Opposite outcomes -/

/-- Two comparisons put a pair in opposite orders. -/
def Opposed (o o' : Ordering) : Prop := o ≠ .eq ∧ o' = o.swap

/-- Of two comparisons that tell the same apart one agrees with the other unless it is opposed. -/
theorem eq_of_not_opposed {o o' : Ordering} (level : o' = .eq ↔ o = .eq) (agree : ¬Opposed o o') :
    o' = o := by
  cases o <;> cases o' <;> simp_all [Opposed]

/-- If the outcomes that weigh more tell the same apart, those that weigh less count on ties. -/
theorem opposed_then_iff {o o' p p' : Ordering} (level : o' = .eq ↔ o = .eq) :
    Opposed (o.then p) (o'.then p') ↔ Opposed o o' ∨ o = .eq ∧ Opposed p p' := by
  cases o <;> cases o' <;> simp_all [Opposed, Ordering.then]

/-! ## Longer lists first -/

namespace Text

/-- The order of lists by their first difference, in which a list stands behind the longer ones
that it is the beginning of. -/
def longerFirst : List String → List String → Ordering
  | [], [] => .eq
  | [], _ :: _ => .gt
  | _ :: _, [] => .lt
  | s :: ss, t :: ts => (compare s t).then (longerFirst ss ts)

variable {ss ts : List String}

theorem longerFirst_self (ss : List String) : longerFirst ss ss = .eq := by
  induction ss with
  | nil => rfl
  | cons s ss ih => rw [longerFirst, ReflOrd.compare_self, ih]; rfl

theorem longerFirst_eq_eq : longerFirst ss ts = .eq ↔ ss = ts := by
  refine ⟨fun level => ?_, fun same => same ▸ longerFirst_self ss⟩
  induction ss generalizing ts with
  | nil =>
    cases ts with
    | nil => rfl
    | cons t ts => cases level
  | cons s ss ih =>
    cases ts with
    | nil => cases level
    | cons t ts =>
      obtain ⟨first, rest⟩ := Ordering.then_eq_eq.mp level
      rw [LawfulEqOrd.compare_eq_iff_eq.mp first, ih rest]

/-- The other way round, the order of lists is turned. -/
theorem longerFirst_swap (ss ts : List String) :
    longerFirst ss ts = (longerFirst ts ss).swap := by
  induction ss generalizing ts with
  | nil => cases ts <;> rfl
  | cons s ss ih =>
    cases ts with
    | nil => rfl
    | cons t ts =>
      have swap : compare s t = (compare t s).swap := OrientedOrd.eq_swap
      rw [longerFirst, longerFirst, ih ts, swap, Ordering.swap_then]

/-- Lists stand the other way round exactly if one is a proper beginning of the other. -/
theorem opposed_longerFirst_iff : Opposed (compare ss ts) (longerFirst ss ts) ↔
    ss ≠ ts ∧ (ss <+: ts ∨ ts <+: ss) := by
  induction ss generalizing ts with
  | nil =>
    cases ts with
    | nil => exact iff_of_false (fun opposed => opposed.1 rfl) fun apart => apart.1 rfl
    | cons t ts => exact iff_of_true ⟨nofun, rfl⟩ ⟨nofun, .inl List.nil_prefix⟩
  | cons s ss ih =>
    cases ts with
    | nil => exact iff_of_true ⟨nofun, rfl⟩ ⟨nofun, .inr List.nil_prefix⟩
    | cons t ts =>
      rw [List.compare_cons_cons, longerFirst, opposed_then_iff Iff.rfl, ih,
        LawfulEqOrd.compare_eq_iff_eq, List.cons_prefix_cons, List.cons_prefix_cons,
        ne_eq, ne_eq, List.cons.injEq]
      have steady (o : Ordering) : ¬Opposed o o := by
        cases o <;> simp [Opposed]
      have := steady (compare s t)
      have symm : s = t ↔ t = s := eq_comm
      tauto

/-! ## Quoted texts -/

/-- Documents write the characters of the text as they are, and none of them sorts before the
quotation mark. -/
def IsQuotable (s : String) : Prop := ∀ c ∈ s.toList, '\x22' < c ∧ Value.documentChar c = [c]

instance (s : String) : Decidable (IsQuotable s) :=
  decidable_of_iff ((s.toList.all fun c => '\x22' < c && Value.documentChar c == [c]) = true)
    (by simp [IsQuotable])

/-- A quotable text is written between quotes as it is. -/
theorem IsQuotable.toList_documentString {s : String} (h : IsQuotable s) :
    (Value.documentString s).toList = '\x22' :: (s.toList ++ ['\x22']) := by
  have kept (cs : List Char) (plain : ∀ c ∈ cs, '\x22' < c ∧ Value.documentChar c = [c]) :
      cs.flatMap Value.documentChar = cs := by
    induction cs with
    | nil => rfl
    | cons c cs ih =>
      obtain ⟨⟨-, here⟩, later⟩ := List.forall_mem_cons.mp plain
      rw [List.flatMap_cons, here, ih later, List.singleton_append]
  simp [Value.documentString, kept s.toList h]

/-- A text that sorts before another one does so in quotation marks too, whatever follows. -/
theorem append_quote_lt {cs ds es fs : List Char} (lt : cs < ds) (above : ∀ d ∈ ds, '\x22' < d) :
    cs ++ '\x22' :: es < ds ++ '\x22' :: fs := by
  induction cs generalizing ds with
  | nil =>
    cases ds with
    | nil => exact absurd lt (List.not_lt_nil _)
    | cons d ds => exact List.cons_lt_cons_iff.mpr (.inl (above d List.mem_cons_self))
  | cons c cs ih =>
    cases ds with
    | nil => exact absurd lt (List.not_lt_nil _)
    | cons d ds =>
      rw [List.cons_append, List.cons_append, List.cons_lt_cons_iff]
      rcases List.cons_lt_cons_iff.mp lt with first | ⟨same, rest⟩
      · exact .inl first
      · exact .inr ⟨same, ih rest fun d hd => above d (List.mem_cons_of_mem _ hd)⟩

/-! ## Lists as documents -/

/-- The text of a list of texts as a document. -/
def listText (ss : List String) : String :=
  "[" ++ ", ".intercalate (ss.map Value.documentString) ++ "]"

/-- What follows a member in the text of a list. -/
def listRest : List String → List Char
  | [] => [']']
  | s :: ss => ',' :: ' ' :: '\x22' :: (s.toList ++ '\x22' :: listRest ss)

/-- The text of a list begins with a bracket and its first text in quotes. -/
theorem toList_listText_cons {s : String} (quotable : ∀ t ∈ s :: ss, IsQuotable t) :
    (listText (s :: ss)).toList = '[' :: '\x22' :: (s.toList ++ '\x22' :: listRest ss) := by
  have members : (", ".intercalate ((s :: ss).map Value.documentString)).toList ++ [']'] =
      '\x22' :: (s.toList ++ '\x22' :: listRest ss) := by
    induction ss generalizing s with
    | nil => simp [(quotable s List.mem_cons_self).toList_documentString, listRest]
    | cons t ss ih =>
      obtain ⟨first, later⟩ := List.forall_mem_cons.mp quotable
      have rest := ih later
      rw [List.map_cons] at rest
      simp only [List.map_cons, String.intercalate_cons_cons, String.toList_append,
        List.append_assoc, rest, first.toList_documentString]
      simp [listRest]
  rw [listText, String.toList_append, String.toList_append, List.append_assoc]
  exact congrArg ('[' :: ·) members

/-- Of two members the first difference decides, and of equal ones what follows. -/
theorem member_lt {s t : String} {cs ds : List Char} {o : Ordering} (quotable : IsQuotable t)
    (lt : (compare s t).then o = .lt) (rest : o = .lt → cs < ds) :
    s.toList ++ '\x22' :: cs < t.toList ++ '\x22' :: ds := by
  rcases Ordering.then_eq_lt.mp lt with before | ⟨level, later⟩
  · have before : s < t := compareOfLessAndEq_eq_lt.mp before
    exact append_quote_lt (String.lt_iff.mp before) fun c hc => (quotable c hc).1
  · rw [LawfulEqOrd.compare_eq_iff_eq.mp level]
    exact List.append_left_lt (List.cons_lt_cons_iff.mpr (.inr ⟨rfl, rest later⟩))

/-- What follows a member sorts by what is left of the lists. -/
theorem listRest_lt (quotable : ∀ t ∈ ts, IsQuotable t) (lt : longerFirst ss ts = .lt) :
    listRest ss < listRest ts := by
  induction ss generalizing ts with
  | nil => cases ts <;> cases lt
  | cons s ss ih =>
    cases ts with
    | nil => exact List.cons_lt_cons_iff.mpr (.inl (by decide))
    | cons t ts =>
      obtain ⟨first, later⟩ := List.forall_mem_cons.mp quotable
      rw [listRest, listRest]
      refine List.cons_lt_cons_iff.mpr (.inr ⟨rfl, ?_⟩)
      refine List.cons_lt_cons_iff.mpr (.inr ⟨rfl, ?_⟩)
      refine List.cons_lt_cons_iff.mpr (.inr ⟨rfl, ?_⟩)
      exact member_lt first lt (ih later)

/-- Texts of lists ascend as the lists do when the longer of two comes first. -/
theorem listText_lt (quotable_left : ∀ s ∈ ss, IsQuotable s) (quotable : ∀ t ∈ ts, IsQuotable t)
    (lt : longerFirst ss ts = .lt) : listText ss < listText ts := by
  cases ss with
  | nil => cases ts <;> cases lt
  | cons s ss =>
    rw [String.lt_iff, toList_listText_cons quotable_left]
    cases ts with
    | nil =>
      have empty : (listText []).toList = ['[', ']'] := by decide
      rw [empty]
      refine List.cons_lt_cons_iff.mpr (.inr ⟨rfl, ?_⟩)
      exact List.cons_lt_cons_iff.mpr (.inl (by decide))
    | cons t ts =>
      obtain ⟨first, later⟩ := List.forall_mem_cons.mp quotable
      rw [toList_listText_cons quotable]
      refine List.cons_lt_cons_iff.mpr (.inr ⟨rfl, ?_⟩)
      refine List.cons_lt_cons_iff.mpr (.inr ⟨rfl, ?_⟩)
      exact member_lt first lt (listRest_lt later)

/-- The texts of lists are ordered as the lists are, but longer ones first. -/
theorem compare_listText (quotable_left : ∀ s ∈ ss, IsQuotable s)
    (quotable : ∀ t ∈ ts, IsQuotable t) :
    compare (listText ss) (listText ts) = longerFirst ss ts := by
  have less {s t : String} (lt : s < t) : compare s t = .lt := compareOfLessAndEq_eq_lt.mpr lt
  cases outcome : longerFirst ss ts with
  | lt => exact less (listText_lt quotable_left quotable outcome)
  | eq => rw [longerFirst_eq_eq.mp outcome, ReflOrd.compare_self]
  | gt =>
    have swap : compare (listText ss) (listText ts) =
        (compare (listText ts) (listText ss)).swap := OrientedOrd.eq_swap
    rw [longerFirst_swap, Ordering.swap_eq_gt] at outcome
    rw [swap, less (listText_lt quotable quotable_left outcome)]
    rfl

end Text

end SchoolRegistry
