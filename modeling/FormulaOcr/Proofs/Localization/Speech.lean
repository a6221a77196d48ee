import FormulaOcr.Proofs.Localization.Messages

/-! What the tables that come with the service say. A message shows the values that it mentions as
they are, and is never empty where its template has characters of its own. No message is empty in
one table only. -/

namespace FormulaOcr

namespace Localization

deriving instance DecidableEq for Field

deriving instance DecidableEq for Piece

/-- The pieces of the template of a message; none if there is no template. -/
def Translator.template (t : Translator) (key : String) : List Piece :=
  match t.messages.find? key with
  | some (.str template) => pieces .outside template.toList
  | _ => []

/-- A piece that is a character. -/
def Piece.isLiteral : Piece → Bool
  | .literal _ => true
  | _ => false

/-- A piece that is a field for the value of a name. -/
def Piece.isFor (name : String) : Piece → Bool
  | .field f => String.ofList f.reference = name
  | _ => false

variable {t : Translator} {key name : String} {values : Dictionary Json}

theorem template_of_found {template : String} (h : t.messages.find? key = some (.str template)) :
    t.template key = pieces .outside template.toList := by
  unfold Translator.template
  rw [h]

theorem say_nil (t : Translator) (key : String) :
    t.say key [] = ((t.messages.find? key).getD (.str key)).display := rfl

/-- A plain template is said piece by piece. -/
theorem say_plain (hplain : hasPlain t key values.keys = true) (hvalues : values ≠ []) :
    (t.say key values).toList = (t.template key).flatMap (Piece.shown values) := by
  obtain ⟨template, hfound, hpieces, hown⟩ := found_of_hasPlain hplain
  rw [Translator.say, translate_plain hfound hpieces hown hvalues, template_of_found hfound]
  simp [Except.toOption, Json.display]

/-- A value that is mentioned is shown in the message. -/
theorem infix_say (hplain : hasPlain t key values.keys = true) {value : Json}
    (hvalue : values.find? name = some value)
    (hmentions : (t.template key).any (Piece.isFor name) = true) :
    value.display.toList <:+: (t.say key values).toList := by
  have hvalues : values ≠ [] := by
    intro hnone
    rw [hnone] at hvalue
    cases hvalue
  rw [say_plain hplain hvalues]
  obtain ⟨piece, hmem, hfor⟩ := List.any_eq_true.1 hmentions
  have hshown : Piece.shown values piece = value.display.toList := by
    cases piece with
    | field f =>
      obtain rfl : String.ofList f.reference = name := of_decide_eq_true hfor
      rw [Piece.shown, hvalue, Option.getD_some]
    | literal c => cases hfor
    | fault f => cases hfor
  obtain ⟨before, after, hsplit⟩ := List.append_of_mem hmem
  refine ⟨before.flatMap (Piece.shown values), after.flatMap (Piece.shown values), ?_⟩
  rw [hsplit, List.flatMap_append, List.flatMap_cons, hshown, List.append_assoc]

/-- A message with a character of its own is not empty. -/
theorem say_ne_empty (hplain : hasPlain t key values.keys = true) (hvalues : values ≠ [])
    (hliteral : (t.template key).any Piece.isLiteral = true) : t.say key values ≠ "" := by
  obtain ⟨piece, hmem, hpiece⟩ := List.any_eq_true.1 hliteral
  intro hempty
  have hsaid := say_plain hplain hvalues
  rw [hempty] at hsaid
  have hnone := List.flatMap_eq_nil_iff.1 hsaid.symm piece hmem
  cases piece with
  | literal c => exact nomatch hnone
  | field f => exact nomatch hpiece
  | fault f => exact nomatch hpiece

/-- The translators that the tables make. -/
def shipped : List Translator :=
  [inEnglish, inChinese]

theorem eq_of_shipped (ht : t ∈ shipped) : t = inEnglish ∨ t = inChinese := by
  simpa [shipped] using ht

theorem complete_shipped (ht : t ∈ shipped) : t.Complete := by
  rcases eq_of_shipped ht with rfl | rfl
  · exact complete_inEnglish
  · exact complete_inChinese

theorem plain_shipped (ht : t ∈ shipped) {names : List String} (h : (key, names) ∈ valued) :
    hasPlain t key names = true := by
  rcases eq_of_shipped ht with rfl | rfl
  · exact List.all_eq_true.1 plain_inEnglish (key, names) h
  · exact List.all_eq_true.1 plain_inChinese (key, names) h

/-- The words of a provider are passed on as they are. -/
theorem say_provider_message (ht : t ∈ shipped) (message : Json) :
    t.say "errors.provider_message" [("message", message)] = message.display := by
  have htemplate : ∀ t ∈ shipped, t.template "errors.provider_message" =
      [.field { reference := "message".toList }] := by
    decide +kernel
  have hplain : hasPlain t "errors.provider_message"
      (Dictionary.keys [("message", message)]) = true :=
    plain_shipped ht (valued_one (by decide) _)
  rw [← String.toList_inj, say_plain hplain (by simp), htemplate t ht]
  simp [Piece.shown, Dictionary.find?_cons]

theorem say_nil_ne_empty (ht : t ∈ shipped) (hkey : key ∈ builtIn.map (·.1)) :
    t.say key [] ≠ "" := by
  have hsaid : ∀ t ∈ shipped, ∀ key ∈ builtIn.map (·.1), t.say key [] ≠ "" := by
    decide +kernel
  exact hsaid t ht key hkey

/-- All other messages have words of their own. -/
theorem say_message_ne_empty (ht : t ∈ shipped) (h : Message key values.keys)
    (hkey : key ≠ "errors.provider_message") : t.say key values ≠ "" := by
  have hliteral : ∀ t ∈ shipped, ∀ entry ∈ valued, entry.1 = "errors.provider_message" ∨
      (t.template entry.1).any Piece.isLiteral = true := by
    decide +kernel
  rcases eq_or_ne values [] with rfl | hvalues
  · exact say_nil_ne_empty ht h.1
  · have hvalued : (key, values.keys) ∈ valued := h.mentions.resolve_left hvalues
    exact say_ne_empty (plain_shipped ht hvalued) hvalues
      ((hliteral t ht _ hvalued).resolve_left hkey)

/-- No message is empty in the words of one table only. -/
theorem say_empty_iff {t' : Translator} (ht : t ∈ shipped) (ht' : t' ∈ shipped)
    (h : Message key values.keys) : t.say key values = "" ↔ t'.say key values = "" := by
  by_cases hkey : key = "errors.provider_message"
  · subst hkey
    rcases h.mentions with rfl | hvalued
    · exact iff_of_false (say_nil_ne_empty ht h.1) (say_nil_ne_empty ht' h.1)
    · have hkeys : values.keys = ["message"] := by simpa [valued] using hvalued
      obtain ⟨⟨name, message⟩, rfl, rfl⟩ := List.map_eq_singleton_iff.1 hkeys
      rw [say_provider_message ht, say_provider_message ht']
  · exact iff_of_false (say_message_ne_empty ht h hkey) (say_message_ne_empty ht' h hkey)

end Localization

end FormulaOcr
