import MonkeyLang.Proofs.Comparison
import MonkeyLang.Proofs.Representation

/-! Equality as a host sees it, beside equality inside the language. The host looks into arrays and
returns, the language only at what they are told apart by, so the two part on arrays alone. Wherever an
identity determines the value that has it, values that are equal to the host look the same. -/

namespace MonkeyLang

namespace Value

mutual

/-- All that a host sees of a value when it compares: the identity of a function or builtin, and
what anything else holds. -/
def content : Value → Value
  | .array _ elements => .array 0 (contents elements)
  | .function identity _ => .function identity ⟨[], .missing, 0⟩
  | .builtin identity _ _ => .builtin identity "" .len
  | .pendingReturn _ result => .pendingReturn 0 result.content
  | scalar => scalar

def contents : List Value → List Value
  | [] => []
  | value :: rest => value.content :: contents rest

end

theorem equivalentAll_iff_contents {lefts : List Value}
    (each : ∀ left ∈ lefts, ∀ right : Value,
      left.equivalent right = true ↔ left.content = right.content) (rights : List Value) :
    equivalentAll lefts rights = true ↔ contents lefts = contents rights := by
  induction lefts generalizing rights with
  | nil =>
      cases rights with
      | nil => simp [equivalentAll]
      | cons right rights => simp [equivalentAll, contents]
  | cons left lefts ih =>
      have others := ih fun other member => each other (by simp [member])
      cases rights with
      | nil => simp [equivalentAll, contents]
      | cons right rights => simp [equivalentAll, contents, each left (by simp) right, others]

theorem equivalent_iff_content (left right : Value) :
    left.equivalent right = true ↔ left.content = right.content := by
  induction left using induct_parts generalizing right with
  | step left ih =>
  cases left with
  | array identity elements =>
      cases right with
      | array other others =>
          have inner : ∀ element ∈ elements, ∀ right : Value,
            element.equivalent right = true ↔ element.content = right.content := ih
          simp [equivalent, content, equivalentAll_iff_contents inner]
      | _ => simp [equivalent, content]
  | pendingReturn identity result =>
      cases right with
      | pendingReturn other twin =>
          have inner := ih result (by simp [parts]) twin
          simp [equivalent, content, inner]
      | _ => simp [equivalent, content]
  | _ => cases right <;> simp [equivalent, content]

theorem equivalent_equivalence : Equivalence fun left right : Value => left.equivalent right = true where
  refl value := (equivalent_iff_content value value).mpr rfl
  symm {left right} same := by
    rw [equivalent_iff_content] at same ⊢
    exact same.symm
  trans {left middle right} former latter := by
    rw [equivalent_iff_content] at former latter ⊢
    exact former.trans latter

theorem equivalent_eq_identical {left right : Value} (arrays : ¬BothOf .array left right)
    (returns : ¬BothOf .returnSignal left right) : left.equivalent right = left.identical right := by
  cases left <;> cases right <;> simp_all [equivalent, identical, BothOf, type]

theorem Throughout.contains {good : Value → Prop} {value inner : Value}
    (all : value.Throughout good) (contained : value.Contains inner) : inner.Throughout good := by
  induction contained with
  | self => exact all
  | inside member _ ih => exact ih (all.part member)

end Value

open Value

theorem holds_equal_iff_identical {left right : Value} :
    Holds "==" left right ↔ left.identical right = true :=
  holds_iff_of_applied fun position => applyBinary_equal position left right

/-- One type, the same texts and the same truth, and arrays with equal elements at every index. -/
structure Value.Resembles (left right : Value) : Prop where
  type : left.type.name = right.type.name
  inspect : left.inspect = right.inspect
  debugText : left.debugText = right.debugText
  truthy : left.isTruthy = right.isTruthy
  len : ∀ name position settings, (Action.len).call name position [left] settings =
    (Action.len).call name position [right] settings
  elements : ∀ identity other lefts rights, left = .array identity lefts →
    right = .array other rights → lefts.length = rights.length ∧
      ∀ position index, ResultsAlike (fun first second => first.equivalent second = true)
        (elementAt lefts position index) (elementAt rights position index)

namespace Ledger

variable {ledger : Ledger} {left right : Value}

theorem Lists.eq_of_identity (listed : ledger.Lists left) (listedTwin : ledger.Lists right)
    {identity : Identity} (named : left.identity? = some identity)
    (namedTwin : right.identity? = some identity) : left = right := by
  have entry := listed left (.self left) identity named
  have entryTwin := listedTwin right (.self right) identity namedTwin
  exact Option.some.inj (entry.symm.trans entryTwin)

theorem Lists.eq_of_identical (listed : ledger.Lists left) (listedTwin : ledger.Lists right)
    (same : left.identical right = true) : left = right := by
  have shared (identity : Identity) (named : left.identity? = some identity)
      (namedTwin : right.identity? = some identity) : left = right :=
    listed.eq_of_identity listedTwin named namedTwin
  cases left <;> cases right <;> simp_all [identical, identity?]

structure Equates (ledger : Ledger) (left right : Value) : Prop where
  listed : ledger.Lists left
  listedTwin : ledger.Lists right
  same : left.equivalent right = true

theorem equates_members {lefts rights : List Value} (listed : ∀ left ∈ lefts, ledger.Lists left)
    (listedTwins : ∀ right ∈ rights, ledger.Lists right)
    (same : equivalentAll lefts rights = true) : List.Forall₂ ledger.Equates lefts rights := by
  induction lefts generalizing rights with
  | nil =>
      cases rights with
      | nil => exact .nil
      | cons right rights => simp [equivalentAll] at same
  | cons left lefts ih =>
      cases rights with
      | nil => simp [equivalentAll] at same
      | cons right rights =>
          simp only [equivalentAll, Bool.and_eq_true] at same
          simp only [List.forall_mem_cons] at listed listedTwins
          exact .cons ⟨listed.1, listedTwins.1, same.1⟩ (ih listed.2 listedTwins.2 same.2)

theorem Equates.refl (listed : ledger.Lists left) : ledger.Equates left left :=
  ⟨listed, listed, equivalent_equivalence.refl left⟩

theorem Equates.alike (equates : ledger.Equates left right) : left.Alike ledger.Equates right := by
  obtain ⟨listed, listedTwin, same⟩ := equates
  cases left with
  | array identity elements =>
      cases right with
      | array other others =>
          rw [equivalent] at same
          exact .array (equates_members (fun _ => listed.part) (fun _ => listedTwin.part) same)
      | _ => simp [equivalent] at same
  | pendingReturn identity result =>
      cases right with
      | pendingReturn other twin =>
          rw [equivalent] at same
          exact .pendingReturn ⟨listed.part (by simp [parts]), listedTwin.part (by simp [parts]), same⟩
      | _ => simp [equivalent] at same
  | _ =>
      rw [equivalent_eq_identical (by simp [BothOf, type]) (by simp [BothOf, type])] at same
      rw [← listed.eq_of_identical listedTwin same]
      exact alike_refl fun part member => .refl (listed.part member)

theorem Equates.texts (equates : ledger.Equates left right) :
    left.inspect = right.inspect ∧ left.debugText = right.debugText := by
  induction left using induct_parts generalizing right with
  | step left ih =>
  cases equates.alike with
  | array members =>
      have same := forall_of_members members fun element member twin => ih element member
      have shown := map_eq_of_members (same.imp fun _ _ both => both.1)
      have debug := map_eq_of_members (same.imp fun _ _ both => both.2)
      simp only [inspect, debugText, inspectAll_eq_map, debugTexts_eq_map, shown, debug, and_self]
  | function parameters body => simp only [inspect, debugText, parameters, and_self]
  | builtin action => exact ⟨rfl, rfl⟩
  | pendingReturn result =>
      have same := (ih _ (by simp [parts]) result).2
      simp only [inspect, debugText, same, and_self]
  | _ => exact ⟨rfl, rfl⟩

theorem Equates.lengthOf_eq (equates : ledger.Equates left right) (position : Position) :
    lengthOf position left = lengthOf position right := by
  cases equates.alike with
  | array members => simp only [lengthOf, members.length_eq]
  | _ => rfl

theorem Equates.resembles (equates : ledger.Equates left right) : left.Resembles right where
  type := by rw [equates.alike.type_eq]
  inspect := equates.texts.1
  debugText := equates.texts.2
  truthy := equates.alike.isTruthy_eq
  len := by
    intro name position settings
    have same : (Action.len).perform name position [left] settings =
        (Action.len).perform name position [right] settings :=
      congrArg (checkArity "len" position 1 1 >>= fun _ => ·) (equates.lengthOf_eq position)
    simp only [Action.call, same]
  elements := by
    rintro identity other lefts rights rfl rfl
    have members : List.Forall₂ ledger.Equates lefts rights := by
      cases equates.alike with
      | array members => exact members
    refine ⟨members.length_eq, fun position index => ?_⟩
    have same := members.imp fun _ _ equates => equates.same
    exact elementAt_alike same (alike_refl fun part _ => equivalent_equivalence.refl part) position

end Ledger

namespace Host

variable {host : Host}

theorem Has.lists {value : Value} {ledger : Ledger} (recorded : host.Recorded ledger)
    (has : host.Has value) : ledger.Lists value := by
  cases has with
  | bound found contained => exact (recorded.store.listed.bindings _ _ _ found).contains contained
  | registered found contained => exact (recorded.store.listed.registry _ _ found).contains contained
  | held member contained => exact (recorded.held _ member).contains contained

/-- Host equality is an equivalence. It differs from the equality of the language for arrays and
returns only, and what it equates looks the same. -/
theorem host_equality_laws (reached : host.Reached) :
    (Equivalence fun left right : Value => left.equivalent right = true) ∧
    ∀ left right, host.Has left → host.Has right →
      (Holds "==" left right → left.equivalent right = true) ∧
      (¬BothOf .array left right → ¬BothOf .returnSignal left right →
        (Holds "==" left right ↔ left.equivalent right = true)) ∧
      (left.equivalent right = true → left.Resembles right) := by
  obtain ⟨ledger, recorded⟩ := reached.recorded
  refine ⟨equivalent_equivalence, fun left right has hasTwin => ⟨?_, ?_, ?_⟩⟩
  · intro holds
    rw [holds_equal_iff_identical] at holds
    rw [(has.lists recorded).eq_of_identical (hasTwin.lists recorded) holds]
    exact equivalent_equivalence.refl right
  · intro arrays returns
    rw [holds_equal_iff_identical, equivalent_eq_identical arrays returns]
  · intro same
    exact Ledger.Equates.resembles ⟨has.lists recorded, hasTwin.lists recorded, same⟩

theorem host_equality_laws_arrays :
    let length : Value := .builtin 0 "len" .len
    let opened := initial.hold (length, .initial)
    let holding := opened.hold (opened.store.addArray [length])
    let host := holding.hold (holding.store.addArray [length])
    let array : Value := .array 6 [length]
    let twin : Value := .array 7 [length]
    host.Reached ∧ host.Has array ∧ host.Has twin ∧ ¬Holds "==" array twin ∧
    array.equivalent twin = true ∧ array.Resembles twin ∧ Holds "==" length length ∧
    length.equivalent length = true := by
  intro length opened holding host array twin
  have found : (initial.store.findBuiltin "len").1 = some length := rfl
  have first : opened.Reached := .step .initial (.findBuiltin found)
  have second : holding.Reached := .step first (.array (by simp [opened, Host.hold]))
  have reached : host.Reached := .step second (.array (by simp [holding, opened, Host.hold]))
  have held : host.held = [twin, array, length] := rfl
  have has (value : Value) (member : value ∈ host.held) : host.Has value := .held member (.self value)
  have hasArray := has array (by simp [held])
  have hasTwin := has twin (by simp [held])
  have hasLength := has length (by simp [held])
  obtain ⟨equivalence, laws⟩ := host_equality_laws reached
  have same : array.equivalent twin = true := by decide
  have separate : ¬Holds "==" array twin := by
    rw [holds_equal_iff_identical]
    decide
  have alone := (laws length length hasLength hasLength).2.1 (by simp [BothOf, length, Value.type])
    (by simp [BothOf, length, Value.type])
  have reflexive := equivalence.refl length
  exact ⟨reached, hasArray, hasTwin, separate, same, (laws array twin hasArray hasTwin).2.2 same,
    alone.mpr reflexive, reflexive⟩

end Host

end MonkeyLang
