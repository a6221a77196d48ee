import FormulaOcr.Proofs.SimpleTex.Bookkeeping

/-! The model that an upload is attributed to. A picture is uploaded to the model that the selector
names, less the slashes in front of the name, while the mode that is asked for, the count and the
label are those of the name as it stands. All of them are of one model exactly if there are no such
slashes. -/

namespace FormulaOcr

open FormulaOcr.Action FormulaOcr.Localization FormulaOcr.Recognition FormulaOcr.SimpleTex

namespace Action

variable {α : Type} {w v : World}

/-- What is told as a result was one, and nothing else happens. -/
theorem exec_ofProblem_eq_ok {told : Except Problem α} {x : α}
    (h : exec (ofProblem told) w = (.ok x, v)) : told = .ok x ∧ v = w := by
  cases told with
  | ok y =>
    obtain ⟨hsame, rfl⟩ := Prod.mk.inj h
    exact ⟨congrArg Except.ok (Except.ok.inj hsame), rfl⟩
  | error p =>
    cases p with
    | crash c => cases congrArg Prod.fst h
    | complaint c => exact absurd h (exec_complain_ne_ok c w x v)

end Action

/-! SiliconFlow is sent no uploads. -/

/-- Calls were made since some were, and none of them is an upload. -/
def AsksOnly (calls : List Call) (w : World) : Prop :=
  ∃ more, w.calls = calls ++ more ∧ ∀ call ∈ more, ∀ u, call.payload ≠ .upload u

namespace SiliconFlow

variable {calls : List Call}

theorem agrees_translator_asksOnly : Agrees (Only (AsksOnly calls)) translator :=
  agrees_translator_of fun _ _ hw => hw

theorem agrees_ask (key : Json) (imageUrl modelId prompt : String) :
    Agrees (Only (AsksOnly calls)) (ask key imageUrl modelId prompt) := by
  have hsend : Agrees (Only (AsksOnly calls)) (Provider.siliconflow.send .post "chat/completions"
      key [("Content-Type", .str "application/json")]
      (.json (chatBody modelId imageUrl prompt))) := by
    refine agrees_only.2 fun w hw => ?_
    cases htimeout : w.configuration.timeout with
    | error e =>
      rw [exec_send_untimed htimeout]
      exact hw
    | ok x =>
      have hcalled : AsksOnly calls (w.called
          (question w.configuration x key imageUrl modelId prompt) (taken w.network).2) := by
        obtain ⟨more, hmore, hnone⟩ := hw
        refine ⟨more ++ [question w.configuration x key imageUrl modelId prompt], ?_, ?_⟩
        · rw [World.called, hmore, List.append_assoc]
        · intro call hcall u
          rcases List.mem_append.1 hcall with hold | hnew
          · exact hnone call hold u
          · obtain rfl := List.mem_singleton.1 hnew
            exact Payload.noConfusion
      rw [exec_send_timed htimeout _ _ _ _ _ _
        (question w.configuration x key imageUrl modelId prompt) rfl]
      cases givenBack (taken w.network).1 with
      | error e => exact hcalled
      | ok given =>
        cases given with
        | ok r => exact hcalled
        | error i =>
          exact agrees_only.1 (agrees_translator_asksOnly.complain (.requestFailed i.detail)) _
            hcalled
  exact hsend.bind fun r => agrees_translator_asksOnly.ofProblem (reading r)

end SiliconFlow

theorem Recognition.agrees_withSiliconFlow {calls : List Call} (key image : String) (mode : Mode)
    (modelId : String) :
    Agrees (Only (AsksOnly calls)) (withSiliconFlow key image mode modelId) := by
  have hverify (imageUrl primary : String) :
      Agrees (Only (AsksOnly calls)) (verify key imageUrl modelId primary) := by
    refine (SiliconFlow.agrees_ask _ _ _ _).attempt.bind fun ended => ?_
    cases ended with
    | ok secondary => exact Agrees.pure _
    | error f => exact Agrees.pure _
  have hask (imageUrl : String) : Agrees (Only (AsksOnly calls)) (do
      let primary ← SiliconFlow.ask (.str key) imageUrl modelId (prompt mode)
      if primary = "" then return { text := "", model := modelId, verified := some false }
      else if mode = .formula then verify key imageUrl modelId primary
      else return { text := primary, model := modelId }) :=
    (SiliconFlow.agrees_ask _ _ _ _).bind fun primary =>
      Agrees.ite (fun _ => Agrees.pure _) fun _ =>
        Agrees.ite (fun _ => hverify imageUrl primary) fun _ => Agrees.pure _
  unfold withSiliconFlow
  exact Agrees.ite (fun _ => (SiliconFlow.agrees_translator_asksOnly.complain _).bind fun _ =>
    hask _) fun _ => hask _

/-! Recognitions by SimpleTex that succeed. -/

variable {w v : World} {token image modelId : String} {mode : Mode} {result : Result} {p : Path}

/-- A recognition that succeeds made its call. -/
theorem SimpleTex.recognize_eq_ok {mode : Option String} {found : String × Binary64}
    (h : exec (recognize (.str token) image modelId mode) w = (.ok found, v)) :
    ∃ x bytes, v = w.called (submission w.configuration x token modelId mode bytes)
      (taken w.network).2 := by
  cases hbytes : decodeImage image with
  | error c =>
    rw [recognize, exec_ofComplaint_error hbytes] at h
    exact absurd h (exec_complain_ne_ok c w found v)
  | ok bytes =>
    cases htimeout : w.configuration.timeout with
    | error e =>
      rw [recognize, exec_ofComplaint_ok hbytes, upload,
        exec_bind_error (exec_send_untimed htimeout _ _ _ _ _ _)] at h
      cases congrArg Prod.fst h
    | ok x =>
      refine ⟨x, bytes, ?_⟩
      rw [SimpleTex.exec_recognize hbytes htimeout] at h
      cases hgiven : givenBack w.outcome with
      | error e =>
        rw [hgiven] at h
        cases congrArg Prod.fst h
      | ok given =>
        rw [hgiven] at h
        cases given with
        | ok r => exact (exec_ofProblem_eq_ok h).2
        | error i => exact absurd h (exec_complain_ne_ok _ _ _ _)

/-- A recognition that succeeds made one call, counted the model once and was labelled with it. -/
theorem Recognition.withSimpleTex_eq_ok
    (h : exec (withSimpleTex token image mode modelId) w = (.ok result, v))
    (hp : w.counterPath = some p) :
    (∃ x bytes, v.calls = w.calls ++
      [submission w.configuration x token modelId (uploadMode modelId mode) bytes]) ∧
    v.counterPath = some p ∧ v.today = w.today ∧
    Usage.inFile v.disk p = (Usage.inFile w.disk p).increment w.today modelId ∧
    ∃ t, v.translator = .ok t ∧ result.model = t.label modelId := by
  rw [exec_withSimpleTex] at h
  split_ifs at h with htoken
  · exact absurd h (exec_complain_ne_ok _ w result v)
  obtain ⟨found, u, hrecognized, hrest⟩ := exec_bind_eq_ok h
  obtain ⟨x, bytes, rfl⟩ := SimpleTex.recognize_eq_ok hrecognized
  obtain ⟨_, u, hcounted, hout⟩ := exec_bind_eq_ok hrest
  obtain ⟨d, rfl, hfile⟩ := countRecognition_ok (w := w.called _ _) hp hcounted
  obtain ⟨t, ht, rfl, kept, rfl⟩ := handOut_eq_ok hout
  exact ⟨⟨x, bytes, rfl⟩, hp, rfl, hfile, t, ht, rfl⟩

/-! Attribution. -/

/-- The mode that was asked for, the counts and the label of a recognition are those of a model. -/
structure AttributedTo (id mode : String) (u : Upload) (result : Result) (w v : World) : Prop where
  mode : u.mode =
    if id = "simpletex_ocr" then some (if mode = "formula" then "formula" else "document") else none
  counted : ∀ other, ∃ n, (exec (usageToday other) w).1 = .ok n ∧
    (exec (usageToday other) v).1 = .ok (n + if other = id then 1 else 0)
  labelled : ∃ t, v.translator = .ok t ∧ result.model = t.label id

theorem AttributedTo.unique {id other mode : String} {u : Upload}
    (h : AttributedTo id mode u result w v)
    (h' : AttributedTo other mode u result w v) : id = other := by
  obtain ⟨n, hbefore, hafter⟩ := h.counted id
  obtain ⟨n', hbefore', hafter'⟩ := h'.counted id
  obtain rfl := Except.ok.inj (hbefore.symm.trans hbefore')
  have hsame := Except.ok.inj (hafter.symm.trans hafter')
  by_contra hne
  rw [if_pos rfl, if_neg hne] at hsame
  omega

/-- Names lead to the same address exactly if they differ in slashes in front alone. -/
theorem Provider.url_eq_iff (c : Configuration) (provider : Provider) (path path' : String) :
    provider.url c path = provider.url c path' ↔
      path.toList.dropWhile (· == '/') = path'.toList.dropWhile (· == '/') := by
  unfold Provider.url
  rw [← String.toList_inj]
  simp only [String.toList_append, List.append_assoc, List.append_cancel_left_eq,
    String.toList_ofList]

theorem SimpleTex.dropWhile_id {k : SimpleTex.Model} (hk : k ∈ models) :
    k.id.toList.dropWhile (· == '/') = k.id.toList := by
  revert k
  decide

/-- A recognition that succeeds passed all checks. -/
theorem Recognition.passes_of_ok {image mode modelId : String}
    (h : exec (Command.runRecognize (.str image) (.str mode) (.str modelId)) w = (.ok result, v)) :
    (Inquiry.ofArguments w image mode modelId).complaint? = none ∧
      exec (Inquiry.ofArguments w image mode modelId).served w = (.ok result, v) := by
  have hscreens := Inquiry.screens_complaints image mode modelId w
  cases hcomplaint : (Inquiry.ofArguments w image mode modelId).complaint? with
  | none => exact ⟨rfl, (hscreens.passes hcomplaint).symm.trans h⟩
  | some c =>
    exact absurd ((hscreens.fails hcomplaint).symm.trans h) (exec_complain_ne_ok c w result v)

/-- An inquiry that SimpleTex serves successfully made one call, an upload to the model that it
names, and the recognition is attributed to the name. -/
theorem Recognition.Inquiry.served_attributed {q : Inquiry} (hpasses : q.complaint? = none)
    (hprovider : q.provider = .simpletex) (hserved : exec q.served w = (.ok result, v))
    (hp : w.counterPath = some p) :
    ∃ call u, v.calls = w.calls ++ [call] ∧ call.payload = .upload u ∧
      call.url = Provider.simpletex.url w.configuration q.modelId ∧
      AttributedTo q.modelId q.mode u result w v := by
  have hmode : q.modeComplaint = none := by
    simp only [complaint?, complaints, List.findSome?_eq_none_iff, id, List.forall_mem_cons]
      at hpasses
    exact hpasses.2.1
  rw [served_simpletex hprovider] at hserved
  obtain ⟨⟨x, bytes, hcalls⟩, hpath, htoday, hfile, hlabel⟩ := withSimpleTex_eq_ok hserved hp
  refine ⟨_, _, hcalls, rfl, rfl, uploadMode_eq (parse_ok hmode).2, fun other => ?_, hlabel⟩
  refine ⟨(Usage.inFile w.disk p).on w.today other, ?_, ?_⟩
  · rw [exec_usageToday hp]
  · rw [exec_usageToday hpath, hfile, htoday, Usage.on_increment, if_pos rfl]
    simp only [eq_comm]

theorem Recognition.Inquiry.served_asksOnly {q : Inquiry} (hprovider : q.provider = .siliconflow)
    (w : World) : AsksOnly w.calls (exec q.served w).2 := by
  have hserved : q.served = withSiliconFlow q.key q.image q.namedMode q.modelId := by
    rw [served, hprovider]
  rw [hserved]
  exact agrees_only.1 (agrees_withSiliconFlow _ _ _ _) w
    ⟨[], (List.append_nil _).symm, fun _ h => absurd h List.not_mem_nil⟩

/-- Whatever is uploaded to the address of a model is attributed to the name that the selector has
for it. That is the model itself, unless the name has slashes in front. -/
theorem upload_attributed {image mode modelId : String} {k : SimpleTex.Model} {more : List Call}
    {call : Call} {u : Upload} (hp : w.counterPath = some p)
    (hrun : exec (Command.runRecognize (.str image) (.str mode) (.str modelId)) w =
      (.ok result, v))
    (hmore : v.calls = w.calls ++ more) (hcall : call ∈ more) (hupload : call.payload = .upload u)
    (hk : k ∈ models) (hurl : call.url = Provider.simpletex.url w.configuration k.id) :
    let id := (Inquiry.ofArguments w image mode modelId).modelId
    id.toList.dropWhile (· == '/') = k.id.toList ∧ AttributedTo id mode u result w v ∧
      (AttributedTo k.id mode u result w v ↔ id.toList.head? ≠ some '/') := by
  intro id
  obtain ⟨hpasses, hserved⟩ := passes_of_ok hrun
  cases hprovider : (Inquiry.ofArguments w image mode modelId).provider with
  | siliconflow =>
    have hasks := Inquiry.served_asksOnly hprovider w
    rw [hserved] at hasks
    obtain ⟨more', hmore', hnone⟩ := hasks
    obtain rfl := List.append_cancel_left (hmore.symm.trans hmore')
    exact absurd hupload (hnone call hcall u)
  | simpletex =>
    obtain ⟨call', u', hcalls, hupload', hurl', hattributed⟩ :=
      Inquiry.served_attributed hpasses hprovider hserved hp
    obtain rfl := List.append_cancel_left (hmore.symm.trans hcalls)
    obtain rfl := List.mem_singleton.1 hcall
    obtain rfl := Payload.upload.inj (hupload.symm.trans hupload')
    have hname : id.toList.dropWhile (· == '/') = k.id.toList := by
      rw [← dropWhile_id hk]
      exact (Provider.url_eq_iff _ _ _ _).1 (hurl'.symm.trans hurl)
    refine ⟨hname, hattributed, fun hmodel hslash => ?_, fun hslash => ?_⟩
    · have hsame : id = k.id := hattributed.unique hmodel
      have hnone : ∀ k ∈ models, k.id.toList.head? ≠ some '/' := by decide
      exact hnone k hk (hsame ▸ hslash)
    · have hkept : id.toList.dropWhile (· == '/') = id.toList := by
        cases hid : id.toList with
        | nil => rfl
        | cons c rest =>
          rw [hid] at hslash
          exact List.dropWhile_cons_of_neg (by simpa using hslash)
      have hsame : id = k.id := String.toList_inj.1 (hkept.symm.trans hname)
      exact hsame ▸ hattributed

/-- With a slash in front of the model, a selector has the picture uploaded to the standard model,
and the recognition is not attributed to it. -/
theorem upload_attributed_slash :
    ∃ u result v, exec (Command.runRecognize (.str "AAAA") (.str "formula")
        (.str "simpletex:/latex_ocr")) (filing (.file [])) = (.ok result, v) ∧
      (∃ call ∈ v.calls, call.payload = .upload u ∧
        call.url = Provider.simpletex.url (filing (.file [])).configuration "latex_ocr") ∧
      AttributedTo "/latex_ocr" "formula" u result (filing (.file [])) v ∧
      ¬ AttributedTo "latex_ocr" "formula" u result (filing (.file [])) v := by
  obtain ⟨result, v, hrun⟩ := exec_eq_ok (a := Command.runRecognize (.str "AAAA") (.str "formula")
    (.str "simpletex:/latex_ocr")) (w := filing (.file [])) (by decide +kernel)
  obtain ⟨hpasses, hserved⟩ := passes_of_ok hrun
  have hprovider : (Inquiry.ofArguments (filing (.file [])) "AAAA" "formula"
      "simpletex:/latex_ocr").provider = .simpletex := by
    decide +kernel
  have hname : (Inquiry.ofArguments (filing (.file [])) "AAAA" "formula"
      "simpletex:/latex_ocr").modelId = "/latex_ocr" := by
    decide +kernel
  have hp : (filing (.file [])).counterPath = some ⟨"/", ["data", "usage.json"]⟩ := rfl
  obtain ⟨call, u, hcalls, hupload, hurl, -⟩ :=
    Inquiry.served_attributed hpasses hprovider hserved hp
  have haddress : call.url =
      Provider.simpletex.url (filing (.file [])).configuration standardModel.id := by
    rw [hurl, hname, Provider.url_eq_iff]
    decide
  have hmodel : standardModel ∈ models := by decide
  obtain ⟨-, hattributed, hiff⟩ := upload_attributed hp hrun hcalls (List.mem_singleton_self call)
    hupload hmodel haddress
  rw [hname] at hattributed hiff
  have hmem : call ∈ v.calls := by
    rw [hcalls]
    exact List.mem_append_right _ (List.mem_singleton_self call)
  exact ⟨u, result, v, hrun, ⟨call, hmem, hupload, haddress⟩, hattributed,
    fun h => hiff.1 h (by decide)⟩

end FormulaOcr
