import FormulaOcr.Proofs.Disk.Likeness
import FormulaOcr.Proofs.Localization.Wording

/-! Translators that are loaded from two disks. If the disks differ in the values of some objects
alone, so do the tables that are read from them and the translators that are made of these. -/

namespace FormulaOcr.Localization

open FormulaOcr.Action

/-- The same error, or results that are related. -/
inductive Loads {ε α β : Type} (Q : α → β → Prop) : Except ε α → Except ε β → Prop
  | ok {x : α} {y : β} (h : Q x y) : Loads Q (.ok x) (.ok y)
  | error (e : ε) : Loads Q (.error e) (.error e)

namespace Loads

variable {ε α β γ δ : Type} {Q : α → β → Prop} {Q' : γ → δ → Prop}

theorem refl {Q : α → α → Prop} (hQ : ∀ x, Q x x) (r : Except ε α) : Loads Q r r := by
  cases r with
  | ok x => exact .ok (hQ x)
  | error e => exact .error e

theorem bind {r : Except ε α} {r' : Except ε β} {f : α → Except ε γ} {g : β → Except ε δ}
    (h : Loads Q r r') (hf : ∀ x y, Q x y → Loads Q' (f x) (g y)) :
    Loads Q' (r >>= f) (r' >>= g) := by
  cases h with
  | ok h => exact hf _ _ h
  | error e => exact .error e

/-- What goes on with one of two results, as a condition says. -/
theorem chosen {c : Prop} [Decidable c] {r s : Except ε α} {r' s' : Except ε β}
    {f : α → Except ε γ} {g : β → Except ε δ} (hr : Loads Q r r') (hs : Loads Q s s')
    (hf : ∀ x y, Q x y → Loads Q' (f x) (g y)) :
    Loads Q' (if c then r >>= f else s >>= f) (if c then r' >>= g else s' >>= g) := by
  split_ifs
  · exact hr.bind hf
  · exact hs.bind hf

end Loads

/-- Two files that hold objects with the same keys, and values that are related. -/
def Holding (V : String → Json → Json → Prop) (b b' : Bytes) : Prop :=
  ∃ d d' : Dictionary Json, Json.inBytes b = some (.obj d) ∧ Json.inBytes b' = some (.obj d') ∧
    d.Like V d'

variable {V : String → Json → Json → Prop} {F : Bytes → Bytes → Prop} {name : String}
  {disk disk' : Disk}

theorem readText_of_inBytes {d : Disk} {p : Path} {b : Bytes} {j : Json} (hb : d.read p = .ok b)
    (hj : Json.inBytes b = some j) :
    ∃ text, d.readText p = .ok text ∧ Json.read text = .ok j := by
  unfold Json.inBytes at hj
  unfold Disk.readText
  rw [hb]
  dsimp only
  split at hj
  · next t ht =>
    rw [ht]
    exact ⟨_, rfl, eq_ok_of_toOption hj⟩
  · exact nomatch hj

section Load

variable (hV : ∀ key value, V key value value) (hF : ∀ b b', F b b' → Holding V b b')
  (h : disk.Like name F disk')
include hV hF h

theorem loads_readTable (directory : Path) (language : String) :
    Loads (Dictionary.Like V) (readTable disk directory language)
      (readTable disk' directory language) := by
  have hempty : Dictionary.Like V ([] : Dictionary Json) ([] : Dictionary Json) := .nil
  unfold readTable
  dsimp only
  rw [h.hasFile]
  cases disk'.hasFile (directory.child (language ++ ".json")) with
  | error f => exact .error _
  | ok there =>
    cases there with
    | false => exact .ok hempty
    | true =>
      rcases h.read (directory.child (language ++ ".json")) with
        hsame | ⟨b, b', place, hb, hb', hcontent, -, -⟩
      · have htext : disk.readText (directory.child (language ++ ".json")) =
            disk'.readText (directory.child (language ++ ".json")) := by
          rw [Disk.readText, Disk.readText, hsame]
        rw [htext]
        exact Loads.refl (Dictionary.Like.refl hV) _
      · obtain ⟨d, d', hd, hd', hlike⟩ := hF b b' hcontent
        obtain ⟨text, htext, hread⟩ := readText_of_inBytes hb hd
        obtain ⟨text', htext', hread'⟩ := readText_of_inBytes hb' hd'
        rw [htext, htext']
        simp only [bind, Except.bind, Except.mapError, hread, hread', if_true]
        exact .ok hlike

/-- Translators that are loaded from the two disks have the same keys, and messages that are
related. -/
theorem loads_load (directory : Path) (language fallback : String) (overrides : Json) :
    Loads (fun t t' => t.messages.Like V t'.messages)
      (Translator.load disk directory language fallback overrides)
      (Translator.load disk' directory language fallback overrides) := by
  have hread := loads_readTable hV hF h directory
  have hnone : Loads (ε := Crash) (Dictionary.Like V) (.ok []) (.ok []) := .ok .nil
  unfold Translator.load
  dsimp only
  refine (hread "en").bind fun english english' henglish => ?_
  refine hnone.chosen (hread fallback) fun second second' hsecond => ?_
  refine hnone.chosen (hread language) fun own own' hown => ?_
  refine (Loads.refl (Dictionary.Like.refl hV) _).chosen hnone fun host host' hhost => ?_
  exact .ok (((((Dictionary.Like.refl hV _).merge henglish).merge hsecond).merge hown).merge hhost)

end Load

end FormulaOcr.Localization
