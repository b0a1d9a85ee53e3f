import MonkeyLang.Proofs.Host

/-! What a unit logs. There is a line for every call of a function, in order, and at the end a line for
the error that left the unit, if one did. A call that is refused is the last one. -/

namespace MonkeyLang

/-- The line of a call that was let in: it had as many arguments as it should, or that did not
matter. -/
def LogLine.Accepted : LogLine → Prop
  | .calling parameters arguments policy => ¬(arguments ≠ parameters ∧ policy = .strict)
  | _ => False

namespace Store

def Logged (before now : Store) (lines : List LogLine) : Prop :=
  now.log.toList = before.log.toList ++ lines

/-- The lines for the builtins that are always there, unless they have been registered before. -/
def registrations (store : Store) : List LogLine :=
  if store.stockLoaded then [] else stockBuiltins.map fun entry => .registered entry.1

def Proceeds (before now : Store) : Prop :=
  ∃ calls, before.Logged now calls ∧ ∀ line ∈ calls, line.Accepted

variable {before now after : Store} {lines more : List LogLine}

theorem Logged.trans (former : before.Logged now lines) (latter : now.Logged after more) :
    before.Logged after (lines ++ more) := by
  simp only [Logged] at former latter ⊢
  rw [latter, former, List.append_assoc]

theorem logged_record (store : Store) (line : LogLine) :
    store.Logged (store.record line) [line] := by
  simp [Logged, record]

theorem Proceeds.refl (store : Store) : store.Proceeds store :=
  ⟨[], by simp [Logged], by simp⟩

theorem Proceeds.of_same (proceeds : before.Proceeds now) (same : after.log = now.log) :
    before.Proceeds after := by
  obtain ⟨calls, logged, accepted⟩ := proceeds
  refine ⟨calls, ?_, accepted⟩
  rwa [Logged, same]

theorem Proceeds.record (proceeds : before.Proceeds now) {line : LogLine}
    (accepted : line.Accepted) : before.Proceeds (now.record line) := by
  obtain ⟨calls, logged, former⟩ := proceeds
  refine ⟨calls ++ [line], logged.trans (now.logged_record line), ?_⟩
  intro called member
  rcases List.mem_append.mp member with old | new
  · exact former called old
  · rwa [List.mem_singleton.mp new]

end Store

section Traces

variable {calls : List LogLine} (accepted : ∀ line ∈ calls, line.Accepted)
include accepted

end Traces

section Units

variable {node : Node} {store after : Store}

end Units

end MonkeyLang
