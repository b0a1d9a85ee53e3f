import Mathlib.Data.List.DropRight
import MonkeyLang.Proofs.Host

/-! Which texts choose a policy. White space around a text does not count and letters may have either
case; apart from that each policy has one spelling. Lower case is not one to one, so this rests on the
table: no character but a letter and its capital lowers to a letter of the two names. -/

namespace MonkeyLang

def IsBlankText (text : String) : Prop := ∀ char ∈ text.toList, isBlank char = true

instance (text : String) : Decidable (IsBlankText text) :=
  List.decidableBAll (isBlank · = true) text.toList

/-- The text is the name of the policy in letters of either case, with white space around it. -/
def ArityPolicy.SpelledBy (policy : ArityPolicy) (text : String) : Prop :=
  ∃ before word after, text = before ++ word ++ after ∧ IsBlankText before ∧ IsBlankText after ∧
    word.toLower = policy.name

/-- The setting chooses the policy: it spells its name, or it says nothing and so leaves the strict
one. -/
inductive ArityPolicy.ChosenBy : ArityPolicy → Option String → Prop
  | unset : ChosenBy .strict none
  | blank {text : String} : IsBlankText text → ChosenBy .strict (some text)
  | spelled {policy : ArityPolicy} {text : String} : policy.SpelledBy text →
      ChosenBy policy (some text)

section Trimming

variable {text before after : String}

theorem trimChars_pad {before after : List Char} (chars : List Char)
    (blankBefore : ∀ char ∈ before, isBlank char = true)
    (blankAfter : ∀ char ∈ after, isBlank char = true) :
    trimChars (before ++ chars ++ after) = trimChars chars := by
  simp only [trimChars, List.append_assoc, List.dropWhile_append_of_pos blankBefore]
  rw [List.dropWhile_append]
  cases rest : chars.dropWhile isBlank with
  | nil => simp [List.dropWhile_eq_nil_iff.mpr blankAfter]
  | cons char others =>
      have reversed : ∀ char ∈ after.reverse, isBlank char = true := by simpa using blankAfter
      simp only [List.isEmpty_cons, Bool.false_eq_true, if_false, List.reverse_append,
        List.dropWhile_append_of_pos reversed]

theorem trim_pad (text : String) (blankBefore : IsBlankText before)
    (blankAfter : IsBlankText after) : trim (before ++ text ++ after) = trim text := by
  simp only [trim, String.toList_append, trimChars_pad text.toList blankBefore blankAfter]

theorem exists_trim_pad (text : String) :
    ∃ before after, text = before ++ trim text ++ after ∧ IsBlankText before ∧
      IsBlankText after := by
  let inner := text.toList.dropWhile isBlank
  have trimmed : trim text = String.ofList (inner.rdropWhile isBlank) := rfl
  refine ⟨String.ofList (text.toList.takeWhile isBlank), String.ofList (inner.rtakeWhile isBlank),
    ?_, ?_, ?_⟩
  · rw [trimmed, ← String.toList_inj]
    simp only [String.toList_append, String.toList_ofList, List.append_assoc,
      List.rdropWhile_append_rtakeWhile, inner, List.takeWhile_append_dropWhile]
  · intro char member
    exact List.mem_takeWhile_imp (by simpa using member)
  · intro char member
    exact List.mem_rtakeWhile_imp (by simpa using member)

theorem trim_eq_empty_iff : trim text = "" ↔ IsBlankText text := by
  constructor
  · intro none
    obtain ⟨before, after, whole, blankBefore, blankAfter⟩ := exists_trim_pad text
    rw [whole, none]
    intro char member
    simp only [String.append_empty, String.toList_append, List.mem_append] at member
    exact member.elim (blankBefore char) (blankAfter char)
  · intro blank
    have padded : trim (text ++ "" ++ "") = trim "" := trim_pad "" blank nofun
    rw [String.append_empty, String.append_empty] at padded
    exact padded.trans rfl

theorem trim_of_unblank (unblank : ∀ char ∈ text.toList, isBlank char = false) :
    trim text = text := by
  have kept (chars : List Char) (none : ∀ char ∈ chars, isBlank char = false) :
      chars.dropWhile isBlank = chars := by
    cases chars with
    | nil => rfl
    | cons char rest => simp [none char (by simp)]
  rw [trim, trimChars, kept text.toList unblank, kept _ (by simpa using unblank),
    List.reverse_reverse, String.ofList_toList]

end Trimming

/-- The small letters that nothing lowers to but they themselves and their capitals. The letter `k`
is not among them, because the kelvin sign lowers to it as well. -/
def IsPlainLetter (char : Char) : Prop :=
  97 ≤ char.toNat ∧ char.toNat ≤ 122 ∧ char.toNat ≠ 107

instance (char : Char) : Decidable (IsPlainLetter char) :=
  inferInstanceAs (Decidable (_ ∧ _ ∧ _))

section Lowering

variable {char letter : Char}

theorem toLower_of_capital (lower : 65 ≤ char.toNat) (upper : char.toNat ≤ 90) :
    char.toLower = Char.ofNat (char.toNat + 32) := by
  have table : ∀ code ≤ 90, 65 ≤ code → (Char.ofNat code).toLower = Char.ofNat (code + 32) := by
    decide
  have here := table char.toNat upper lower
  rwa [Char.ofNat_toNat] at here

theorem toLower_of_other (other : char.toNat < 65 ∨ 90 < char.toNat) : char.toLower = char := by
  apply dif_neg
  rintro ⟨lower, upper⟩
  have lowerCode : 65 ≤ char.toNat := UInt32.le_iff_toNat_le.mp lower
  have upperCode : char.toNat ≤ 90 := UInt32.le_iff_toNat_le.mp upper
  omega

theorem toLower_ne_of_foreign (foreign : 128 ≤ char.toNat) (plain : IsPlainLetter letter) :
    char.toLower ≠ letter := by
  rw [toLower_of_other (by omega)]
  rintro rfl
  have ascii := plain.2.1
  omega

theorem ofNat_ne_of_code {code : Nat} (foreign : 128 ≤ code ∨ code = 107)
    (plain : IsPlainLetter letter) : Char.ofNat code ≠ letter := by
  rintro rfl
  obtain ⟨lower, upper, different⟩ := plain
  have cases : (Char.ofNat code).toNat = code ∨ (Char.ofNat code).toNat = 0 := by
    by_cases valid : code.isValidChar
    · rw [Char.ofNat, dif_pos valid]
      exact Or.inl rfl
    · rw [Char.ofNat, dif_neg valid]
      exact Or.inr rfl
  omega

theorem caseRuns_cases : ∀ run ∈ caseRuns,
    (run.first = 65 ∧ run.last = 90 ∧ run.shift = 32) ∨
      128 ≤ run.first ∧ (128 ≤ run.first + run.shift ∨
        run.last = run.first ∧ run.first + run.shift = 107) := by
  decide +kernel

theorem find?_caseRuns_of_capital (lower : 65 ≤ char.toNat) (upper : char.toNat ≤ 90) :
    caseRuns.find? (·.has char.toNat) ≠ none := by
  intro absent
  have capitals : (⟨65, 90, 1, 32⟩ : CaseRun) ∈ caseRuns := List.mem_cons_self
  have outside := List.find?_eq_none.mp absent _ capitals
  simp only [CaseRun.has, Nat.mod_one, Bool.and_eq_true, decide_eq_true_eq] at outside
  exact outside ⟨⟨lower, upper⟩, rfl⟩

theorem lowerChar_eq_iff (plain : IsPlainLetter letter) :
    lowerChar char = [letter] ↔ char.toLower = letter := by
  by_cases dotted : char = capitalDottedI
  · subst dotted
    have other : capitalDottedI.toLower ≠ letter := toLower_ne_of_foreign (by decide) plain
    simp [lowerChar, other]
  · rw [lowerChar, if_neg dotted]
    cases found : caseRuns.find? (·.has char.toNat) with
    | none =>
        have small : char.toNat < 65 ∨ 90 < char.toNat := by
          by_contra capital
          exact find?_caseRuns_of_capital (by omega) (by omega) found
        simp [toLower_of_other small]
    | some run =>
        have inside := List.find?_some found
        simp only [CaseRun.has, Bool.and_eq_true, decide_eq_true_eq] at inside
        rcases caseRuns_cases run (List.mem_of_find?_eq_some found) with capital | foreign
        · have shifted : ((char.toNat : Int) + run.shift).toNat = char.toNat + 32 := by omega
          simp [shifted, toLower_of_capital (show 65 ≤ char.toNat by omega) (by omega)]
        · have different : char.toLower ≠ letter := toLower_ne_of_foreign (by omega) plain
          have elsewhere : Char.ofNat ((char.toNat : Int) + run.shift).toNat ≠ letter :=
            ofNat_ne_of_code (by omega) plain
          simp [different, elsewhere]

theorem lowerCharBetween_eq_iff (before : List Char) (char : Char) (after : List Char)
    (plain : IsPlainLetter letter) :
    lowerCharBetween before char after = [letter] ↔ char.toLower = letter := by
  by_cases sigma : char = capitalSigma
  · subst sigma
    have other : capitalSigma.toLower ≠ letter := toLower_ne_of_foreign (by decide) plain
    have final : finalSigma ≠ letter := by
      rintro rfl
      exact absurd plain (by decide)
    have small : smallSigma ≠ letter := by
      rintro rfl
      exact absurd plain (by decide)
    rw [lowerCharBetween, if_pos rfl]
    split <;> simp [other, final, small]
  · rw [lowerCharBetween, if_neg sigma]
    exact lowerChar_eq_iff plain

theorem lowerCharBetween_cases (before : List Char) (char : Char) (after : List Char) :
    (∃ lowered, lowerCharBetween before char after = [lowered]) ∨
      lowerCharBetween before char after = ['i', combiningDot] := by
  simp only [lowerCharBetween, lowerChar]
  split
  · exact Or.inl ⟨_, rfl⟩
  · split
    · exact Or.inr rfl
    · split
      · exact Or.inl ⟨_, rfl⟩
      · exact Or.inl ⟨_, rfl⟩

/-- Where plain letters come out, lower case does to each what it does to that letter alone. -/
theorem lowerCharsAfter_eq_iff {letters : List Char}
    (plain : ∀ letter ∈ letters, IsPlainLetter letter) (before chars : List Char) :
    lowerCharsAfter before chars = letters ↔ chars.map Char.toLower = letters := by
  induction chars generalizing before letters with
  | nil => simp [lowerCharsAfter]
  | cons char rest ih =>
      rw [lowerCharsAfter, List.map_cons]
      cases letters with
      | nil =>
          rcases lowerCharBetween_cases before char rest with ⟨lowered, single⟩ | pair
          · simp [single]
          · simp [pair]
      | cons letter others =>
          have here := lowerCharBetween_eq_iff before char rest (plain letter (by simp))
          have plainOthers : ∀ other ∈ others, IsPlainLetter other :=
            fun other member => plain other (by simp [member])
          rcases lowerCharBetween_cases before char rest with ⟨lowered, single⟩ | pair
          · rw [single] at here ⊢
            simp only [List.cons.injEq, and_true] at here
            simp [here, ih plainOthers]
          · have undotted : combiningDot ∉ others :=
              fun member => absurd (plainOthers combiningDot member) (by decide)
            rw [pair] at here ⊢
            constructor
            · intro same
              simp only [List.cons_append, List.cons.injEq] at same
              exact (undotted (same.2 ▸ List.mem_cons_self)).elim
            · intro same
              simp only [List.cons.injEq] at same
              cases here.mpr same.1

theorem plainLetter_of_mem_name (policy : ArityPolicy) :
    ∀ letter ∈ policy.name.toList, IsPlainLetter letter := by
  cases policy <;> simp [ArityPolicy.name, IsPlainLetter]

theorem toList_toLower (word : String) : word.toLower.toList = word.toList.map Char.toLower :=
  String.toList_map

theorem lowercase_eq_name_iff (policy : ArityPolicy) (word : String) :
    lowercase word = policy.name ↔ word.toLower = policy.name := by
  rw [← String.toList_inj, ← String.toList_inj, lowercase, String.toList_ofList, toList_toLower,
    lowerCharsAfter_eq_iff (plainLetter_of_mem_name policy)]

theorem lowercase_eq_empty_iff (text : String) : lowercase text = "" ↔ text = "" := by
  rw [← String.toList_inj, ← String.toList_inj, lowercase, String.toList_ofList, String.toList_empty,
    lowerCharsAfter_eq_iff (by simp), List.map_eq_nil_iff]

theorem isBlank_of_plainLetter (plain : IsPlainLetter char.toLower) : isBlank char = false := by
  have ascii : 65 ≤ char.toNat ∧ char.toNat ≤ 122 := by
    by_cases capital : 65 ≤ char.toNat ∧ char.toNat ≤ 90
    · omega
    · rw [toLower_of_other (by omega)] at plain
      exact ⟨Nat.le_trans (by decide) plain.1, plain.2.1⟩
  simp only [isBlank, CharRanges.has, blankRanges, List.any_cons, List.any_nil, Bool.or_false,
    Bool.or_eq_false_iff, Bool.and_eq_false_iff, decide_eq_false_iff_not]
  omega

end Lowering

section Settings

variable {setting : Option String} {text : String} {policy : ArityPolicy}

theorem trim_of_spelled {word : String} (spelled : word.toLower = policy.name) :
    trim word = word := by
  apply trim_of_unblank
  intro char member
  apply isBlank_of_plainLetter
  apply plainLetter_of_mem_name policy
  rw [← spelled, toList_toLower]
  exact List.mem_map_of_mem member

theorem spelledBy_iff : policy.SpelledBy text ↔ lowercase (trim text) = policy.name := by
  rw [lowercase_eq_name_iff]
  constructor
  · rintro ⟨before, word, after, rfl, blankBefore, blankAfter, spelled⟩
    rwa [trim_pad word blankBefore blankAfter, trim_of_spelled spelled]
  · intro spelled
    obtain ⟨before, after, whole, blankBefore, blankAfter⟩ := exists_trim_pad text
    exact ⟨before, trim text, after, whole, blankBefore, blankAfter, spelled⟩

theorem not_spelledBy_of_blank (blank : IsBlankText text) : ¬policy.SpelledBy text := by
  rw [spelledBy_iff, trim_eq_empty_iff.mpr blank]
  cases policy <;> decide +kernel

theorem policyName_eq_iff : policyName setting = policy.name ↔ policy.ChosenBy setting := by
  cases setting with
  | none =>
      constructor
      · intro same
        cases policy with
        | strict => exact .unset
        | lenient => exact absurd same (by decide)
      · rintro ⟨⟩
        rfl
  | some text =>
      by_cases blank : IsBlankText text
      · have default : policyName (some text) = ArityPolicy.strict.name := by
          simp [policyName, readSetting, trim_eq_empty_iff.mpr blank, ArityPolicy.name]
        rw [default]
        constructor
        · intro same
          cases policy with
          | strict => exact .blank blank
          | lenient => exact absurd same (by decide)
        · rintro (_ | _ | spelled)
          · rfl
          · exact (not_spelledBy_of_blank blank spelled).elim
      · have given : policyName (some text) = lowercase (trim text) := by
          simp [policyName, readSetting, mt trim_eq_empty_iff.mp blank, lowercase_eq_empty_iff]
        rw [given, ← spelledBy_iff]
        constructor
        · exact .spelled
        · rintro (_ | none | spelled)
          · exact (blank none).elim
          · exact spelled

theorem ofSetting_eq_ok_iff : ArityPolicy.ofSetting setting = .ok policy ↔ policy.ChosenBy setting := by
  rw [← policyName_eq_iff, eq_comm (a := policyName setting), ← ArityPolicy.ofName?_eq_some,
    ArityPolicy.ofSetting]
  cases ArityPolicy.ofName? (policyName setting) <;> simp

theorem exists_ofSetting_error_iff :
    (∃ unknown, ArityPolicy.ofSetting setting = .error unknown) ↔
      ∀ policy : ArityPolicy, ¬policy.ChosenBy setting := by
  simp only [← ofSetting_eq_ok_iff]
  cases ArityPolicy.ofSetting setting <;> simp

theorem ofSetting_pad {before after : String} (text : String) (blankBefore : IsBlankText before)
    (blankAfter : IsBlankText after) :
    ArityPolicy.ofSetting (some (before ++ text ++ after)) = ArityPolicy.ofSetting (some text) := by
  have read : readSetting (some (before ++ text ++ after)) = readSetting (some text) := by
    simp only [readSetting, trim_pad text blankBefore blankAfter]
  have named : policyName (some (before ++ text ++ after)) = policyName (some text) := by
    rw [policyName, policyName, read]
  rw [ArityPolicy.ofSetting, ArityPolicy.ofSetting, named]

theorem openSession_of_unknown {unknown : UnknownPolicy}
    (refused : ArityPolicy.ofSetting setting = .error unknown) (store : Store) :
    store.openSession setting none = (.error unknown, store.loadStock) := by
  have settings : sessionSettings setting none = .error unknown := by
    rw [sessionSettings, refused]
    rfl
  simp only [Store.openSession, settings]

end Settings

/-- A setting gives a policy if and only if it spells one or says nothing; otherwise no session is
opened. Explicit settings leave nothing to it. -/
theorem setting_chooses_policy :
    (∀ setting policy, ArityPolicy.ofSetting setting = .ok policy ↔ policy.ChosenBy setting) ∧
    (∀ setting, (∃ unknown, ArityPolicy.ofSetting setting = .error unknown) ↔
      ∀ policy : ArityPolicy, ¬policy.ChosenBy setting) ∧
    (∀ setting unknown, ArityPolicy.ofSetting setting = .error unknown →
      (∀ store : Store, store.openSession setting none = (.error unknown, store.loadStock)) ∧
      ∀ host : Host, host.Reached →
        host.store.openSession setting none = (.error unknown, host.store)) ∧
    (∀ before text after, IsBlankText before → IsBlankText after →
      ArityPolicy.ofSetting (some (before ++ text ++ after)) =
        ArityPolicy.ofSetting (some text)) ∧
    ∀ (store : Store) (setting other : Option String) (explicit : Settings),
      store.openSession setting (some explicit) = store.openSession other (some explicit) := by
  refine ⟨fun setting policy => ofSetting_eq_ok_iff, fun setting => exists_ofSetting_error_iff, ?_,
    fun before text after => ofSetting_pad text, fun store setting other explicit => rfl⟩
  intro setting unknown refused
  refine ⟨openSession_of_unknown refused, fun host reached => ?_⟩
  rw [openSession_of_unknown refused, reached.intact.loadStock]

theorem setting_chooses_policy_padded :
    ArityPolicy.lenient.ChosenBy (some " Lenient\u2003") ∧
    ArityPolicy.ofSetting (some " Lenient\u2003") = .ok .lenient ∧
    IsBlankText "\t" ∧ IsBlankText "\u0085" ∧
    ArityPolicy.ofSetting (some ("\t" ++ " Lenient\u2003" ++ "\u0085")) = .ok .lenient ∧
    ArityPolicy.strict.ChosenBy (some "\u001c\n") ∧
    ArityPolicy.ofSetting (some "\u001c\n") = .ok .strict ∧
    Host.initial.Reached ∧
    ArityPolicy.ofSetting (some "str\u0130ct") = .error ⟨"stri\u0307ct"⟩ ∧
    Host.initial.store.openSession (some "str\u0130ct") none =
      (.error ⟨"stri\u0307ct"⟩, Host.initial.store) := by
  obtain ⟨chooses, _, refuses, pads, _⟩ := setting_chooses_policy
  have lenient : ArityPolicy.lenient.ChosenBy (some " Lenient\u2003") :=
    .spelled ⟨" ", "Lenient", "\u2003", by decide, by decide, by decide, by decide +kernel⟩
  have strict : ArityPolicy.strict.ChosenBy (some "\u001c\n") := .blank (by decide)
  have given := (chooses _ _).mpr lenient
  have tab : IsBlankText "\t" := by decide
  have nextLine : IsBlankText "\u0085" := by decide
  have dotted : ArityPolicy.ofSetting (some "str\u0130ct") = .error ⟨"stri\u0307ct"⟩ := by
    decide +kernel
  exact ⟨lenient, given, tab, nextLine, (pads _ _ _ tab nextLine).trans given, strict,
    (chooses _ _).mpr strict, .initial, dotted, (refuses _ _ dotted).2 _ .initial⟩

end MonkeyLang
