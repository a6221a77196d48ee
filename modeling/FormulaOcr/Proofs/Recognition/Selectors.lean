import FormulaOcr.Proofs.Recognition.Complaints
import FormulaOcr.Proofs.SimpleTex.Attribution

/-! Selectors. The selector of a model is the name of a provider and the id of the model with a
colon between them, and a recognition takes it apart at the first colon. So the id may have colons,
slashes and blanks in it, as long as no blank ends it. -/

namespace FormulaOcr

open FormulaOcr.Action FormulaOcr.Localization FormulaOcr.Recognition

/-! Blanks at the ends of arguments. -/

namespace Text

variable {mark : Char}

/-- Behind the last mark, a text and its trimmed form are trimmed alike. -/
theorem trim_afterLast_trim (hmark : isBlank mark = false) (t : List Char) :
    trim (afterLast mark (trim t)) = trim (afterLast mark t) := by
  obtain ⟨before, after, hparts, hbefore, hafter⟩ := exists_trim t
  obtain ⟨lead, hcore, hlead⟩ := exists_lead mark (trim t)
  have hfree (blanks : List Char) (h : ∀ c ∈ blanks, isBlank c = true) : mark ∉ blanks :=
    fun hmem => by simp [h mark hmem] at hmark
  have hbehind : mark ∉ afterLast mark (trim t) ++ after := by
    rw [List.mem_append, not_or]
    exact ⟨notMem_afterLast mark _, hfree after hafter⟩
  generalize afterLast mark (trim t) = data at hcore hbehind ⊢
  rw [hcore] at hparts
  rcases hlead with rfl | hlast
  · have hnone : mark ∉ t := by
      rw [hparts, List.nil_append, List.append_assoc, List.mem_append, not_or]
      exact ⟨hfree before hbefore, hbehind⟩
    rw [afterLast_of_notMem hnone, hparts, List.nil_append, trim_append hbefore hafter]
  · have hends : EndsLead mark (before ++ lead) := .inr (by simp [hlast])
    have hsplit : t = before ++ lead ++ (data ++ after) := by
      rw [hparts]
      simp only [List.append_assoc]
    have hdata : trim ([] ++ data ++ after) = trim data := trim_append (by simp) hafter
    rw [hsplit, afterLast_append hends, afterLast_of_notMem hbehind, ← hdata, List.nil_append]

end Text

/-- Blanks around a picture make no difference. -/
theorem SimpleTex.decodeImage_trimmed (image : String) :
    decodeImage (Text.trimmed image) = decodeImage image := by
  rw [decodeImage_eq, decodeImage_eq image, Text.trimmed, String.toList_ofList,
    Text.trim_afterLast_trim (by decide)]

/-! What a selector leads to. -/

/-- The selector that is composed for a model. -/
def Provider.selector (p : Provider) (modelId : String) : String :=
  p.name ++ ":" ++ modelId

/-- A call has a picture recognised by a model: it uploads one to the address of the model, or puts
a question to the model. -/
def Call.IsFor (c : Configuration) (modelId : String) (call : Call) : Provider → Prop
  | .simpletex =>
    call.verb = .post ∧ call.url = c.endpoint "SIMPLETEX_API_BASE" ++ "/" ++ modelId ∧
      ∃ u, call.payload = .upload u
  | .siliconflow =>
    call.verb = .post ∧ call.url = c.endpoint "SILICONFLOW_API_BASE" ++ "/chat/completions" ∧
      ∃ body, call.payload = .json body ∧ body.member "model" = .str modelId

variable {p : Provider} {modelId : String}

theorem Provider.toList_selector (p : Provider) (modelId : String) :
    (p.selector modelId).toList = p.name.toList ++ ':' :: modelId.toList := by
  simp [selector]

/-- A selector begins with a letter, so that no more than its end can be trimmed. -/
theorem Provider.trimmed_selector
    (hlast : ∀ c ∈ (p.selector modelId).toList.getLast?, Text.isBlank c = false) :
    Text.trimmed (p.selector modelId) = p.selector modelId := by
  refine Text.Trimmed.trimmed_eq ⟨fun c hc => ?_, hlast⟩
  have hfirst : p.name.toList.head?.any (!Text.isBlank ·) = true := by
    cases p <;> decide
  rw [toList_selector, List.head?_append] at hc
  cases hname : p.name.toList.head? with
  | none => simp [hname] at hfirst
  | some first =>
    rw [hname] at hc hfirst
    obtain rfl : first = c := Option.some.inj hc
    simpa using hfirst

namespace Recognition.Inquiry

variable {q : Inquiry}

/-- The name of a provider has no colon, so that the first one in a selector stands behind it. -/
theorem of_selector (h : q.selector = p.selector modelId) :
    q.IsExplicit ∧ q.providerName = p.name ∧ q.provider = p ∧ q.modelId = modelId := by
  have hname : ∀ c ∈ p.name.toList, (c != ':') = true := by
    cases p <;> simp [Provider.name]
  have hexplicit : q.IsExplicit := by
    rw [IsExplicit, h, Provider.toList_selector]
    simp
  have hprovider : q.providerName = p.name := by
    rw [providerName, h, Provider.toList_selector, List.takeWhile_append_of_pos hname,
      List.takeWhile_cons_of_neg (by simp), List.append_nil, String.ofList_toList]
  refine ⟨hexplicit, hprovider, ?_, ?_⟩
  · rw [provider, if_pos hexplicit, hprovider]
    cases p <;> rfl
  · rw [Inquiry.modelId, if_pos hexplicit, h, Provider.toList_selector,
      List.dropWhile_append_of_pos hname, List.dropWhile_cons_of_neg (by simp), List.tail_cons,
      String.ofList_toList]

/-- With both credentials, a selector that chooses a model passes all checks together with a picture
that can be decoded. -/
theorem passes_of_selector {bytes : Bytes} (h : q.selector = p.selector modelId)
    (hmodel : modelId ≠ "") (htoken : q.token ≠ "") (hkey : q.key ≠ "")
    (hmode : q.mode ∈ ["formula", "ocr", "document"])
    (hbytes : SimpleTex.decodeImage q.image = .ok bytes) : q.complaint? = none := by
  obtain ⟨hexplicit, hname, hprovider, hchosen⟩ := of_selector h
  have himage : q.image ≠ "" := by
    intro hempty
    have hmissing := (SimpleTex.decodeImage_missing_iff "").2 (by simp [Text.afterLast])
    rw [hempty, hmissing] at hbytes
    cases hbytes
  have hknown : q.providerName ∈ ["simpletex", "siliconflow"] := by
    rw [hname]
    cases p <;> decide
  have hcredential : q.credential ≠ "" := by
    rw [credential, hprovider]
    cases p
    · exact htoken
    · exact hkey
  simp only [complaint?, complaints, List.findSome?_eq_none_iff, id, List.forall_mem_cons]
  refine ⟨if_neg himage, if_pos hmode, if_neg fun hunknown => hunknown.2 hknown,
    if_neg (hchosen ▸ hmodel), if_neg hcredential, ?_, fun _ hnone => absurd hnone List.not_mem_nil⟩
  rw [decodingComplaint, hbytes]
  cases q.provider <;> rfl

/-- The call of an inquiry is for the model that its selector chooses, if the id of a model of
SimpleTex has no slash in front. -/
theorem call_isFor (h : q.selector = p.selector modelId)
    (hpath : p = .simpletex → modelId.toList.dropWhile (· == '/') = modelId.toList)
    (c : Configuration) (timeout : Binary64) : (q.call c timeout).IsFor c modelId p := by
  obtain ⟨-, -, hprovider, hchosen⟩ := of_selector h
  unfold call
  rw [hprovider, hchosen]
  cases p with
  | simpletex =>
    refine ⟨rfl, ?_, _, rfl⟩
    dsimp only
    rw [Provider.url, hpath rfl, String.ofList_toList]
    rfl
  | siliconflow =>
    refine ⟨rfl, ?_, _, rfl, rfl⟩
    have hchat : String.ofList ("chat/completions".toList.dropWhile (· == '/')) =
        "chat/completions" := by
      decide
    dsimp only [SiliconFlow.question]
    rw [Provider.url, hchat, String.append_assoc]
    rfl

end Recognition.Inquiry

/-- An entry of the offers selects a model. Unless a blank ends its id, the recognition of any
picture that can be decoded begins with a call for the model, wherever both credentials are stored,
and does not complain of the selector. -/
def Selects (c : Configuration) (entry : Json) (p : Provider) (modelId : String) : Prop :=
  ∃ selector, entry.member "id" = .str selector ∧
    ((∀ last ∈ selector.toList.getLast?, Text.isBlank last = false) →
      ∀ (w : World) (image mode : String) (bytes : Bytes), w.configuration = c →
        w.storedToken ≠ "" → w.storedKey ≠ "" → SimpleTex.decodeImage image = .ok bytes →
        mode ∈ ["formula", "ocr", "document"] →
        let run := exec (Command.runRecognize (.str image) (.str mode) (.str selector)) w
        (∃ call more, run.2.calls = w.calls ++ call :: more ∧ call.IsFor c modelId p) ∧
          ∀ complaint, Complained run.1 complaint → ¬ complaint.AboutSelector)

/-- If there is a time to wait, an entry with the selector of a model for its id selects it. -/
theorem selects_of_id {c : Configuration} {entry : Json} {timeout : Binary64}
    (hentry : entry.member "id" = .str (p.selector modelId)) (hmodel : modelId ≠ "")
    (hpath : p = .simpletex → modelId.toList.dropWhile (· == '/') = modelId.toList)
    (htimeout : c.timeout = .ok timeout) : Selects c entry p modelId := by
  refine ⟨_, hentry, fun hlast w image mode bytes hc htoken hkey hbytes hmode => ?_⟩
  subst hc
  have hselector : (Inquiry.ofArguments w image mode (p.selector modelId)).selector =
      p.selector modelId := Provider.trimmed_selector hlast
  have hpasses : (Inquiry.ofArguments w image mode (p.selector modelId)).complaint? = none :=
    Inquiry.passes_of_selector hselector hmodel htoken hkey hmode
      ((SimpleTex.decodeImage_trimmed image).trans hbytes)
  have hrun := (Inquiry.screens_complaints image mode (p.selector modelId) w).passes hpasses
  rw [hrun]
  refine ⟨?_, Inquiry.spares_served _ w⟩
  obtain ⟨more, hmore⟩ := (Inquiry.begins_served hpasses w).called timeout htimeout
  refine ⟨_, more, ?_, Inquiry.call_isFor hselector hpath w.configuration timeout⟩
  rw [← hmore, List.append_assoc, List.singleton_append]

end FormulaOcr
