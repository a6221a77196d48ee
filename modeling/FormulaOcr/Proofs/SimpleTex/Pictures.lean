import FormulaOcr.Proofs.Encoding.Base64
import FormulaOcr.Proofs.Recognition.Checks
import FormulaOcr.Proofs.Text.Search
import FormulaOcr.Proofs.Text.Trimming

/-! Pictures, given in base64 or as data addresses. All that counts is what stands behind the last
comma, without the blanks around it. A picture that was encoded is decoded, whatever stands before
the comma; both providers are sent the same bytes; and what cannot be decoded is complained of. -/

namespace FormulaOcr

open FormulaOcr.Action FormulaOcr.Localization FormulaOcr.Recognition FormulaOcr.Encoding

namespace SimpleTex

open FormulaOcr.Text FormulaOcr.SiliconFlow

theorem decodeImage_eq (image : String) :
    decodeImage image =
      if trim (afterLast ',' image.toList) = [] then .error .imageMissing
      else (Base64.decode (trim (afterLast ',' image.toList))).mapError
        fun f => .imageUndecodable f.message := by
  unfold decodeImage imageData
  simp only [String.toList_ofList, List.isEmpty_iff]

theorem not_blank_of_isData {c : Char} (h : Base64.IsData c) : isBlank c = false := by
  have halphabet : Base64.alphabet.all (!isBlank ·) = true := rfl
  rcases h with h | rfl
  · simpa using List.all_eq_true.1 halphabet c h
  · decide

theorem comma_not_data : ¬ Base64.IsData ',' := by
  rintro (h | h)
  · exact absurd h (by decide)
  · exact absurd h (by decide)

/-- A picture that was encoded is decoded, whatever stands before the last comma and whatever blanks
are around its text. -/
theorem decodeImage_encode {lead before after : List Char} {b : Bytes} (hb : b ≠ [])
    (hlead : EndsLead ',' lead) (hbefore : ∀ c ∈ before, isBlank c = true)
    (hafter : ∀ c ∈ after, isBlank c = true) :
    decodeImage (.ofList (lead ++ (before ++ Base64.encode b ++ after))) = .ok b := by
  have hcomma : ',' ∉ before ++ Base64.encode b ++ after := by
    intro h
    simp only [List.mem_append] at h
    rcases h with (h | h) | h
    · exact absurd (hbefore _ h) (by decide)
    · exact comma_not_data (Base64.isData_of_mem_encode _ h)
    · exact absurd (hafter _ h) (by decide)
  have htrim : trim (before ++ Base64.encode b ++ after) = Base64.encode b :=
    trim_between hbefore hafter fun c hc => not_blank_of_isData (Base64.isData_of_mem_encode c hc)
  rw [decodeImage_eq, String.toList_ofList, afterLast_append hlead, afterLast_of_notMem hcomma,
    htrim, if_neg (Base64.encode_ne_nil hb), Base64.decode_encode]
  rfl

/-- A lead before the last comma does not count. -/
theorem decodeImage_append {lead : List Char} {image whole : String} (hlead : EndsLead ',' lead)
    (hwhole : whole.toList = lead ++ image.toList) : decodeImage whole = decodeImage image := by
  rw [decodeImage_eq whole, decodeImage_eq image, hwhole, afterLast_append hlead]

/-- A picture and its data address are decoded alike. -/
theorem decodeImage_imageUrl (image : String) :
    decodeImage (imageUrl image) = decodeImage image := by
  unfold imageUrl
  split_ifs
  · rfl
  · have hlead : EndsLead ',' "data:image/png;base64,".toList := .inr (by decide)
    exact decodeImage_append hlead String.toList_append

/-- What the data of a picture are complained of. -/
theorem decodeImage_error {image : String} {c : Complaint} (h : decodeImage image = .error c) :
    c = .imageMissing ∨ ∃ f : Base64.Fault, c = .imageUndecodable f.message := by
  rw [decodeImage_eq] at h
  split_ifs at h
  · exact .inl (Except.error.inj h).symm
  · cases hdecode : Base64.decode (trim (afterLast ',' image.toList)) with
    | ok b =>
      rw [hdecode] at h
      exact nomatch h
    | error f =>
      rw [hdecode] at h
      exact .inr ⟨f, (Except.error.inj h).symm⟩

theorem decodeImage_missing_iff (image : String) :
    decodeImage image = .error .imageMissing ↔
      ∀ c ∈ afterLast ',' image.toList, isBlank c = true := by
  rw [← trim_eq_nil_iff, decodeImage_eq]
  constructor
  · intro h
    by_contra hne
    rw [if_neg hne] at h
    cases hdecode : Base64.decode (trim (afterLast ',' image.toList)) with
    | ok b =>
      rw [hdecode] at h
      exact nomatch h
    | error f =>
      rw [hdecode] at h
      have hkey := congrArg Complaint.key (Except.error.inj h)
      simp [Complaint.imageUndecodable, Complaint.imageMissing] at hkey
  · exact fun h => if_pos h

/-- A character that base64 does not use makes the data undecodable. -/
theorem decodeImage_undecodable {image : String} {c : Char}
    (hmem : c ∈ trim (afterLast ',' image.toList)) (hc : ¬ Base64.IsData c) :
    ∃ f : Base64.Fault, decodeImage image = .error (.imageUndecodable f.message) := by
  rw [decodeImage_eq, if_neg (List.ne_nil_of_mem hmem)]
  cases hdecode : Base64.decode (trim (afterLast ',' image.toList)) with
  | ok b => exact absurd (Base64.isData_of_decode hdecode c hmem) hc
  | error f => exact ⟨f, rfl⟩

/-- What a check comes to. -/
theorem comesTo_ofComplaint {α : Type} (checked : Except Complaint α) (w : World) :
    ComesTo (exec (ofComplaint checked) w).1 (checked.mapError .complaint) w := by
  cases checked with
  | ok x => exact comesTo_pure x w
  | error c => exact comesTo_complain c w

theorem complained_ofComplaint_iff {α : Type} {checked : Except Complaint α} {w : World}
    {c : Complaint} :
    Complained (exec (ofComplaint checked) w).1 c ↔ checked = .error c ∧ w.Voices c := by
  rw [(comesTo_ofComplaint checked w).complained c]
  cases checked <;> simp [Except.mapError]

variable {w : World} {t : Translator}

theorem voices_imageMissing (ht : w.translator = .ok t) : w.Voices .imageMissing := by
  obtain ⟨j, hj⟩ := words_nil t Complaint.imageMissing.key [] rfl
  exact ⟨t, j, ht, hj⟩

theorem voices_imageUndecodable (ht : w.translator = .ok t)
    (hwords : t.Words "errors.image_decode" ["detail"]) (detail : String) :
    w.Voices (.imageUndecodable detail) := by
  obtain ⟨j, hj⟩ := hwords (Complaint.imageUndecodable detail).values rfl
  exact ⟨t, j, ht, hj⟩

/-- Decoding undoes encoding, whatever stands before the last comma of a picture and whatever blanks
are around the text. A picture and its data address are decoded alike, so that the bytes that one
provider is sent are those in the address that the other one is sent. Every picture is decoded or
complained of: it is missing if nothing but blanks stands behind the last comma, and undecodable if
a character stands there, not around the text, that base64 does not use. -/
theorem picture_decodes (ht : w.translator = .ok t)
    (hwords : t.Words "errors.image_decode" ["detail"]) :
    (∀ (lead before after : List Char) (b : Bytes), b ≠ [] → EndsLead ',' lead →
      (∀ c ∈ before, isBlank c = true) → (∀ c ∈ after, isBlank c = true) →
      exec (ofComplaint (decodeImage (.ofList (lead ++ (before ++ Base64.encode b ++ after))))) w =
        (.ok b, w)) ∧
    (∀ image,
      exec (ofComplaint (decodeImage (imageUrl image))) w =
        exec (ofComplaint (decodeImage image)) w ∧
      ∀ token modelId mode,
        recognize token (imageUrl image) modelId mode = recognize token image modelId mode) ∧
    ∀ image : String,
      let ended := (exec (ofComplaint (decodeImage image)) w).1
      ∃ lead text, image.toList = lead ++ text ∧ EndsLead ',' lead ∧ ',' ∉ text ∧
        ((∃ b, ended = .ok b) ∨ FailedAs ended .validation) ∧
        (Complained ended .imageMissing ↔ ∀ c ∈ text, isBlank c = true) ∧
        ((∃ c ∈ trim text, ¬ Base64.IsData c) →
          ∃ f : Base64.Fault, Complained ended (.imageUndecodable f.message)) := by
  refine ⟨fun lead before after b hb hlead hbefore hafter => ?_, fun image => ⟨?_, ?_⟩, ?_⟩
  · rw [decodeImage_encode hb hlead hbefore hafter]
    rfl
  · rw [decodeImage_imageUrl]
  · intro token modelId mode
    rw [recognize, recognize, decodeImage_imageUrl]
  · intro image ended
    obtain ⟨lead, hparts, hlead⟩ := exists_lead ',' image.toList
    refine ⟨lead, _, hparts, hlead, notMem_afterLast ',' _, ?_, ?_, ?_⟩
    · cases hdecode : decodeImage image with
      | ok b => exact .inl ⟨b, ((comesTo_ofComplaint _ w).result b).2 (by rw [hdecode]; rfl)⟩
      | error c =>
        refine .inr ⟨c, complained_ofComplaint_iff.2 ⟨hdecode, ?_⟩, ?_⟩
        · rcases decodeImage_error hdecode with rfl | ⟨f, rfl⟩
          · exact voices_imageMissing ht
          · exact voices_imageUndecodable ht hwords f.message
        · rcases decodeImage_error hdecode with rfl | ⟨f, rfl⟩ <;> rfl
    · rw [complained_ofComplaint_iff, decodeImage_missing_iff]
      exact and_iff_left (voices_imageMissing ht)
    · rintro ⟨c, hmem, hc⟩
      obtain ⟨f, hf⟩ := decodeImage_undecodable hmem hc
      exact ⟨f, complained_ofComplaint_iff.2 ⟨hf, voices_imageUndecodable ht hwords f.message⟩⟩

/-- A service in English decodes three bytes behind a comma and between blanks, and complains of a
text that is no base64. -/
theorem picture_decodes_three :
    exec (ofComplaint (decodeImage "data:image/png;base64, AAEC\n")) answering =
        (.ok [0, 1, 2], answering) ∧
      ∃ f : Base64.Fault, Complained (exec (ofComplaint (decodeImage "not base64!!")) answering).1
        (.imageUndecodable f.message) := by
  obtain ⟨hdecodes, -, hends⟩ := picture_decodes translator_answering
    (complete_inEnglish "errors.image_decode" ["detail"] (by decide))
  constructor
  · exact hdecodes "data:image/png;base64,".toList [' '] ['\n'] [0, 1, 2] (by decide)
      (.inr (by decide)) (by simp [isBlank, blankRanges]) (by simp [isBlank, blankRanges])
  · obtain ⟨lead, text, hparts, hlead, -, -, -, hundecodable⟩ := hends "not base64!!"
    refine hundecodable ⟨'!', ?_, by rintro (h | h) <;> exact absurd h (by decide)⟩
    rcases hlead with rfl | hlast
    · rw [List.nil_append] at hparts
      rw [← hparts]
      decide
    · have hcomma : ',' ∈ "not base64!!".toList := by
        rw [hparts]
        exact List.mem_append_left _ (List.mem_of_getLast? hlast)
      exact absurd hcomma (by decide)

/-- Every picture is decoded or complained of. -/
def Decodes (w : World) : Prop :=
  ∀ image,
    let ended := (exec (ofComplaint (decodeImage image)) w).1
    (∃ b, ended = .ok b) ∨ FailedAs ended .validation

/-- A service with a table of its own, in which the message about bad data cannot be filled in. -/
def inarticulate : World :=
  { answering with
    configuration := ⟨[("FORMULASNAP_LANG", .str "/data/label")], []⟩
    disk := ((install ⟨[]⟩).put ["data"] .directory).put ["data", "label.json"]
      (.file (Encoding.Utf8.encodeString "\x7b\"errors.image_decode\": \"\x7b\"\x7d")) }

/-- Bad data can end in a crash. -/
theorem not_decodes : ¬ Decodes inarticulate := by
  intro hclaim
  have hcrashed : crashed (exec (ofComplaint (decodeImage "!")) inarticulate).1 = true := by
    decide +kernel
  rcases hclaim "!" with ⟨b, hok⟩ | hfailed
  · rw [hok] at hcrashed
    exact nomatch hcrashed
  · exact not_failedAs_of_crashed hcrashed .validation hfailed

end SimpleTex

end FormulaOcr
