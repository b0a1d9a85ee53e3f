import MonkeyLang.Proofs.Operation

/-! Laws of the comparisons. Equality is decided in three ways, for two integers, for two strings and
for all the rest, and still it is one equivalence. The order is total on integers and on strings,
where it is the one of a dictionary, and its two directions mirror each other, also where they
fail. -/

namespace MonkeyLang

open Value

def Value.Holds (symbol : String) (left right : Value) : Prop :=
  ∀ position, applyBinary symbol position left right = .ok (.boolean true)

theorem holds_iff_of_applied {symbol : String} {left right : Value} {flag : Bool}
    (applied : ∀ position, applyBinary symbol position left right = .ok (.boolean flag)) :
    Holds symbol left right ↔ flag = true := by
  constructor
  · intro holds
    simpa [applied] using holds .unknown
  · intro same position
    rw [applied, same]

section Equality

/-- All that equality sees of a value: the content of a scalar, the identity of anything else. -/
def Value.essence : Value → Value
  | .array identity _ => .array identity []
  | .function identity _ => .function identity ⟨[], .missing, 0⟩
  | .builtin identity _ _ => .builtin identity "" .len
  | .pendingReturn identity _ => .pendingReturn identity .null
  | scalar => scalar

variable {left right : Value}

theorem identical_iff_essence : left.identical right = true ↔ left.essence = right.essence := by
  cases left <;> cases right <;> simp [identical, essence]

theorem applyBinary_equal (position : Position) (left right : Value) :
    applyBinary "==" position left right = .ok (.boolean (left.identical right)) := by
  cases operands left right with
  | integers first second => rfl
  | strings first second => rfl
  | mixed _ applied => exact applied "==" position

theorem applyBinary_notEqual (position : Position) (left right : Value) :
    applyBinary "!=" position left right = .ok (.boolean (!left.identical right)) := by
  cases operands left right with
  | integers first second => rfl
  | strings first second => rfl
  | mixed _ applied => exact applied "!=" position

theorem holds_equal_iff : Holds "==" left right ↔ left.essence = right.essence :=
  (holds_iff_of_applied fun position => applyBinary_equal position left right).trans
    identical_iff_essence

theorem holds_equal_equivalence : Equivalence (Holds "==") where
  refl _ := holds_equal_iff.mpr rfl
  symm same := holds_equal_iff.mpr (holds_equal_iff.mp same).symm
  trans former latter :=
    holds_equal_iff.mpr ((holds_equal_iff.mp former).trans (holds_equal_iff.mp latter))

end Equality

/-- Messages that tell of the same failure with the operands exchanged: they name the sides that are
null the other way round, or the types of the operands. -/
inductive Exchanged (left right : Value) : String → String → Prop
  | sides {side other : String} : NamesNull left right side → NamesNull right left other →
      Exchanged left right ("Null value error: " ++ side ++ " null")
        ("Null value error: " ++ other ++ " null")
  | types : Exchanged left right
      ("Operation " ++ ">" ++ " not supported for types " ++ left.type.name ++ " and " ++
        right.type.name)
      ("Operation " ++ "<" ++ " not supported for types " ++ right.type.name ++ " and " ++
        left.type.name)

inductive Mirrored (position : Position) (left right : Value) :
    Except Failure Value → Except Failure Value → Prop
  | compared (flag : Bool) : Mirrored position left right (.ok (.boolean flag)) (.ok (.boolean flag))
  | failed {cause twin : Cause} : cause.kind = twin.kind →
      Exchanged left right cause.message twin.message →
      Mirrored position left right (failAt position cause) (failAt position twin)

section Mirror

variable {left right : Value}

theorem Value.Comparable.symm (comparable : Comparable left right) : Comparable right left :=
  Or.imp And.symm And.symm comparable

theorem applyBinary_mirrored (position : Position) (left right : Value) :
    Mirrored position left right (applyBinary ">" position left right)
      (applyBinary "<" position right left) := by
  cases operands left right with
  | integers first second => exact .compared _
  | strings first second => exact .compared _
  | mixed incomparable _ =>
      rw [applyBinary_incomparable position (by simp) incomparable,
        applyBinary_incomparable position (by simp) fun comparable => incomparable comparable.symm]
      by_cases null : EitherOf .null left right
      · rw [unsupported_of_null position ">" null, unsupported_of_null position "<" null.symm]
        exact .failed rfl (.sides (namesNull_of_null null) (namesNull_of_null null.symm))
      · rw [unsupported_of_plain position ">" null,
          unsupported_of_plain position "<" fun other => null other.symm]
        exact .failed rfl .types

theorem Mirrored.true_iff {position : Position} {applied twin : Except Failure Value}
    (mirrored : Mirrored position left right applied twin) :
    applied = .ok (.boolean true) ↔ twin = .ok (.boolean true) := by
  cases mirrored with
  | compared flag => rfl
  | failed _ _ => simp

theorem holds_greater_iff : Holds ">" left right ↔ Holds "<" right left :=
  forall_congr' fun position => (applyBinary_mirrored position left right).true_iff

end Mirror

def ExactlyOne (first second third : Prop) : Prop :=
  (first ∧ ¬second ∧ ¬third) ∨ (¬first ∧ second ∧ ¬third) ∨ (¬first ∧ ¬second ∧ third)

theorem exactlyOne_order {α : Type} [LT α] [Std.Asymm fun first second : α => first < second]
    [Std.Trichotomous fun first second : α => first < second] (first second : α) :
    ExactlyOne (first < second) (first = second) (second < first) := by
  have irreflexive (item : α) : ¬item < item := fun less => Std.Asymm.asymm item item less less
  rcases Std.lt_trichotomy first second with less | same | greater
  · have different : first ≠ second := fun same => irreflexive second (same ▸ less)
    exact Or.inl ⟨less, different, Std.Asymm.asymm first second less⟩
  · subst same
    exact Or.inr (Or.inl ⟨irreflexive first, rfl, irreflexive first⟩)
  · have different : first ≠ second := fun same => irreflexive second (same ▸ greater)
    exact Or.inr (Or.inr ⟨Std.Asymm.asymm second first greater, different, greater⟩)

section Order

variable {left middle right : Value}

theorem holds_less_integers {first second : Int} :
    Holds "<" (.integer first) (.integer second) ↔ first < second :=
  (holds_iff_of_applied fun _ => rfl).trans decide_eq_true_iff

theorem holds_less_strings {first second : String} :
    Holds "<" (.string first) (.string second) ↔ first < second :=
  (holds_iff_of_applied fun _ => rfl).trans decide_eq_true_iff

theorem comparable_of_less (holds : Holds "<" left right) : Comparable left right := by
  have order : "<" ∈ ["<", ">"] := by simp
  exact (orderOutcome .unknown order left right).compared.mp ⟨true, holds .unknown⟩

theorem holds_less_trans (former : Holds "<" left middle) (latter : Holds "<" middle right) :
    Holds "<" left right := by
  cases operands left middle with
  | integers first second =>
      cases operands (.integer second) right with
      | integers _ third =>
          have less := Int.lt_trans (holds_less_integers.mp former) (holds_less_integers.mp latter)
          exact holds_less_integers.mpr less
      | mixed incomparable _ => exact (incomparable (comparable_of_less latter)).elim
  | strings first second =>
      cases operands (.string second) right with
      | strings _ third =>
          have less := String.lt_trans (holds_less_strings.mp former) (holds_less_strings.mp latter)
          exact holds_less_strings.mpr less
      | mixed incomparable _ => exact (incomparable (comparable_of_less latter)).elim
  | mixed incomparable _ => exact (incomparable (comparable_of_less former)).elim

theorem holds_trichotomy (comparable : Comparable left right) :
    ExactlyOne (Holds "<" left right) (Holds "==" left right) (Holds ">" left right) := by
  rw [holds_equal_iff, holds_greater_iff]
  cases operands left right with
  | integers first second =>
      simpa [holds_less_integers, essence] using exactlyOne_order first second
  | strings first second =>
      simpa [holds_less_strings, essence] using exactlyOne_order first second
  | mixed incomparable _ => exact (incomparable comparable).elim

end Order

def codePoints (text : String) : List Nat := text.toList.map Char.toNat

/-- The order of a dictionary: a sequence comes before those that go on after it, and before those
that are greater where the two first differ. -/
def Precedes (left right : List Nat) : Prop :=
  (∃ next rest, right = left ++ next :: rest) ∨
    ∃ shared smaller greater rest others, left = shared ++ smaller :: rest ∧
      right = shared ++ greater :: others ∧ smaller < greater

section Dictionary

theorem not_precedes_nil (left : List Nat) : ¬Precedes left [] := by
  rintro (⟨next, rest, same⟩ | ⟨shared, smaller, greater, rest, others, _, same, _⟩)
  · simp at same
  · simp at same

theorem precedes_cons {first second : Nat} {left right : List Nat} :
    Precedes (first :: left) (second :: right) ↔
      first < second ∨ first = second ∧ Precedes left right := by
  constructor
  · rintro (⟨next, rest, same⟩ | ⟨shared, smaller, greater, rest, others, leftIs, rightIs, less⟩)
    · simp only [List.cons_append, List.cons.injEq] at same
      exact Or.inr ⟨same.1.symm, Or.inl ⟨next, rest, same.2⟩⟩
    · cases shared with
      | nil =>
          cases leftIs
          cases rightIs
          exact Or.inl less
      | cons point shared =>
          cases leftIs
          cases rightIs
          exact Or.inr ⟨rfl, Or.inr ⟨shared, smaller, greater, rest, others, rfl, rfl, less⟩⟩
  · rintro (less | ⟨rfl, ⟨next, rest, rfl⟩ |
      ⟨shared, smaller, greater, rest, others, rfl, rfl, less⟩⟩)
    · exact Or.inr ⟨[], first, second, left, right, rfl, rfl, less⟩
    · exact Or.inl ⟨next, rest, rfl⟩
    · exact Or.inr ⟨first :: shared, smaller, greater, rest, others, rfl, rfl, less⟩

theorem lt_iff_precedes (left right : List Char) :
    left < right ↔ Precedes (left.map Char.toNat) (right.map Char.toNat) := by
  induction left generalizing right with
  | nil =>
      cases right with
      | nil => simpa using not_precedes_nil []
      | cons second right =>
          have continued : Precedes [] ((second :: right).map Char.toNat) :=
            Or.inl ⟨second.toNat, right.map Char.toNat, rfl⟩
          simpa using continued
  | cons first left ih =>
      cases right with
      | nil => simpa using not_precedes_nil _
      | cons second right =>
          rw [List.cons_lt_cons_iff, List.map_cons, List.map_cons, precedes_cons, ih,
            Char.toNat_inj]
          rfl

end Dictionary

/-- The laws of the comparisons, for values of all types in any mix. -/
theorem comparison_laws :
    Equivalence (Holds "==") ∧
    (∀ position left right, ∃ same,
      applyBinary "==" position left right = .ok (.boolean same) ∧
      applyBinary "!=" position left right = .ok (.boolean (!same))) ∧
    (∀ position left right, Mirrored position left right
      (applyBinary ">" position left right) (applyBinary "<" position right left)) ∧
    (∀ left middle right, Holds "<" left middle → Holds "<" middle right →
      Holds "<" left right) ∧
    (∀ left right, Comparable left right →
      ExactlyOne (Holds "<" left right) (Holds "==" left right) (Holds ">" left right)) ∧
    (∀ first second : Int, Holds "<" (.integer first) (.integer second) ↔ first < second) ∧
    (∀ first second : String, Holds "<" (.string first) (.string second) ↔
      Precedes (codePoints first) (codePoints second)) := by
  refine ⟨holds_equal_equivalence, ?_, applyBinary_mirrored, fun _ _ _ => holds_less_trans,
    fun _ _ => holds_trichotomy, fun _ _ => holds_less_integers, ?_⟩
  · intro position left right
    exact ⟨_, applyBinary_equal position left right, applyBinary_notEqual position left right⟩
  · intro first second
    exact holds_less_strings.trans (lt_iff_precedes first.toList second.toList)

end MonkeyLang
