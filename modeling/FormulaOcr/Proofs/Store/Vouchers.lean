import FormulaOcr.Proofs.Store.Saving
import FormulaOcr.Proofs.Store.View
import FormulaOcr.Proofs.Text.Lines
import FormulaOcr.Proofs.Text.Trimming

/-! The list of vouchers. It is made of the lines of a text that have a slash, each trimmed, and a
text of these lines makes the same list. So it stays as it is when it is stored, read from its file
and saved again as it is shown. -/

namespace FormulaOcr

open FormulaOcr.Action FormulaOcr.Recognition Session

namespace Command

variable {text id : String} {ids : List String} {line : List Char}

/-! The list that a text makes. -/

/-- Trimming leaves a slash where it is. -/
theorem slash_mem_trim (h : '/' ∈ line) : '/' ∈ Text.trim line := by
  obtain ⟨before, after, hparts, hbefore, hafter⟩ := Text.exists_trim line
  have hslash : Text.isBlank '/' = false := by decide
  rw [hparts, List.mem_append, List.mem_append] at h
  rcases h with (h | h) | h
  · exact absurd (hbefore _ h) (by simp [hslash])
  · exact h
  · exact absurd (hafter _ h) (by simp [hslash])

theorem voucherModels_eq (text : String) :
    voucherModels text = ((Text.lines text.toList).filter fun line => '/' ∈ line).map
      fun line => Text.trimmed (String.ofList line) := by
  have hline : ∀ line ∈ Text.lines text.toList,
      (line.contains '/' && !(Text.trim line).isEmpty) = decide ('/' ∈ line) := by
    intro line _
    by_cases hslash : '/' ∈ line
    · have hne : Text.trim line ≠ [] := List.ne_nil_of_mem (slash_mem_trim hslash)
      simp [hslash, hne]
    · simp [hslash]
  rw [voucherModels, List.filter_congr hline]
  simp only [Text.trimmed, String.toList_ofList]

/-- What a list of vouchers holds: something with a slash in it, on one line and without blanks at
its ends. -/
structure IsVoucher (id : String) : Prop where
  slash : '/' ∈ id.toList
  trimmed : Text.Trimmed id
  unbroken : Text.Unbroken id.toList

theorem IsVoucher.ne_empty (h : IsVoucher id) : id ≠ "" := by
  rintro rfl
  exact absurd h.slash (by simp)

theorem isVoucher_of_mem (h : id ∈ voucherModels text) : IsVoucher id := by
  rw [voucherModels_eq] at h
  obtain ⟨line, hline, rfl⟩ := List.mem_map.1 h
  obtain ⟨hmem, hslash⟩ := List.mem_filter.1 hline
  refine ⟨?_, Text.trimmed_trimmed _, fun c hc => ?_⟩
  · rw [Text.trimmed, String.toList_ofList, String.toList_ofList]
    exact slash_mem_trim (by simpa using hslash)
  · obtain ⟨before, after, hparts, -, -⟩ := Text.exists_trim line
    rw [Text.trimmed, String.toList_ofList, String.toList_ofList] at hc
    refine Text.unbroken_of_mem_lines hmem c ?_
    rw [hparts]
    simp [hc]

/-- Vouchers that are joined line by line make the same list. -/
theorem voucherModels_intercalate (h : ∀ id ∈ ids, IsVoucher id) :
    voucherModels ("\n".intercalate ids) = ids := by
  have hlines : Text.lines ("\n".intercalate ids).toList = ids.map String.toList := by
    rw [String.toList_intercalate]
    refine Text.lines_intercalate fun line hline => ?_
    obtain ⟨id, hid, rfl⟩ := List.mem_map.1 hline
    exact ⟨List.ne_nil_of_mem (h id hid).slash, (h id hid).unbroken⟩
  have hall : ∀ line ∈ ids.map String.toList, decide ('/' ∈ line) = true := by
    intro line hline
    obtain ⟨id, hid, rfl⟩ := List.mem_map.1 hline
    exact decide_eq_true (h id hid).slash
  rw [voucherModels_eq, hlines, List.filter_eq_self.2 hall, List.map_map]
  refine (List.map_congr_left fun id hid => ?_).trans (List.map_id ids)
  rw [Function.comp_apply, String.ofList_toList, (h id hid).trimmed.trimmed_eq]
  rfl

end Command

/-! Stores that were written with what they hold. -/

/-- The store of a process is open, in a data directory that is there, and its file was last written
with what it holds: to write it again changes nothing. -/
structure World.Written (w : World) (dir : Path) (values : Dictionary Json) : Prop where
  data : w.configuration.dataPath = .ok dir
  directory : w.disk.isDirectory dir = true
  store : w.store = some ⟨dir.child Store.filename, values⟩
  file : w.disk.write (dir.child Store.filename)
    (Encoding.Utf8.encode (Store.fileText values)) = .ok w.disk

variable {w : World} {dir : Path} {values : Dictionary Json} {name : String} {value : Json}

/-- A store that is saved was written with what it holds. -/
theorem written_saveStore (hdata : w.configuration.dataPath = .ok dir)
    (haccepts : w.disk.Accepts (dir.child Store.filename)) (values : Dictionary Json) :
    ∃ v, exec (saveStore ⟨dir.child Store.filename, values⟩) w = (.ok (), v) ∧
      v.Written dir values := by
  obtain ⟨d, ⟨hmade, content, hwrite⟩, hread, hexec⟩ := exec_saveStore_accepted
    (s := ⟨dir.child Store.filename, values⟩) haccepts
  obtain rfl : content = Encoding.Utf8.encode (Store.fileText values) :=
    Except.ok.inj ((Disk.read_write hwrite).symm.trans hread)
  refine ⟨_, hexec, hdata, ?_, rfl, Disk.write_write hwrite⟩
  have hdirectory := Disk.isDirectory_makeDirectories hmade
  rw [parent_storeFilename] at hdirectory hwrite
  exact Disk.isDirectory_keeps (Disk.keeps_write hwrite) hdirectory

namespace World.Written

variable (h : w.Written dir values)
include h

theorem accepts : w.disk.Accepts (dir.child Store.filename) := by
  obtain ⟨place, hplace, -, hnode, -⟩ := Disk.write_eq h.file
  rw [Disk.Accepts, parent_storeFilename, Disk.makeDirectories_of_isDirectory h.directory]
  exact ⟨rfl, place, hplace, hnode⟩

/-- To store what is stored already changes nothing. -/
theorem exec_setStored (hvalue : values.find? name = some value) :
    exec (setStored name value) w = (.ok (), w) := by
  have hsame : { w with store := some ⟨dir.child Store.filename, values⟩ } = w := by
    rw [← h.store]
  rw [Action.exec_setStored h.store, Dictionary.assign_of_find? hvalue, exec_saveStore, hsame,
    exec_writeFile, parent_storeFilename, Disk.makeDirectories_of_isDirectory h.directory]
  dsimp only
  rw [h.file]

/-- A store that is opened again holds what it held, and the defaults that it had not. -/
theorem openStore_restarted (hsound : (Json.obj values).Sound) :
    ∃ v, exec openStore (restarted w) = (.ok (), v) ∧
      v.Written dir (values.merge (Store.missing values)) := by
  have hdirectory : exec dataDirectory (restarted w) = (.ok dir, restarted w) :=
    exec_dataDirectory_there h.data h.directory
  have hvalues : Store.valuesOf (contentOf (restarted w).disk (dir.child Store.filename)) =
      values := by
    have hread : (restarted w).disk.read (dir.child Store.filename) =
        .ok (Encoding.Utf8.encode (Store.fileText values)) := Disk.read_write h.file
    rw [contentOf_written hsound hread]
    rfl
  rw [exec_openStore_none rfl, hdirectory]
  dsimp only
  rw [hvalues, exec_ensureDefaults (s := ⟨dir.child Store.filename, values⟩) rfl]
  by_cases hmissing : (Store.missing values).isEmpty = true
  · rw [if_pos hmissing, List.isEmpty_iff.1 hmissing]
    exact ⟨_, rfl, h.data, h.directory, rfl, h.file⟩
  · rw [if_neg hmissing]
    exact written_saveStore (w := { restarted w with store := _ }) h.data h.accepts _

end World.Written

/-- A store that was written stays so until another value is stored. -/
theorem reads_written (dir : Path) (values : Dictionary Json) :
    Reads (Only fun w => w.Written dir values) := by
  have hcounters : Agrees (Only fun w => w.Written dir values) counterPath := by
    refine agrees_only.2 fun w hw => ?_
    cases hpath : w.counterPath with
    | some p =>
      rw [exec_counterPath hpath]
      exact hw
    | none =>
      rw [exec_counterPath_none hpath, exec_dataDirectory_there hw.data hw.directory]
      exact ⟨hw.data, hw.directory, hw.store, hw.file⟩
  exact {
    toBasics := basics_only
      (agrees_translator_of fun _ _ hw => ⟨hw.data, hw.directory, hw.store, hw.file⟩)
      (fun _ _ hw => ⟨hw.data, hw.directory, hw.store, hw.file⟩)
      (fun _ _ hw => ⟨hw.data, hw.directory, hw.store, hw.file⟩) hcounters
    store := fun w v hR => by rw [hR.1] }

/-! Saving vouchers. -/

/-- Settings that are sent with a text of vouchers alone. -/
def Command.saveVouchers (text : String) : Command :=
  .saveSettings .null .null .null (.str text)

theorem exec_saveVouchers (text : String) (w : World) :
    exec (Command.saveVouchers text).run w =
      exec (do
        setStored Store.vouchersName (.texts (Command.voucherModels text))
        return Reply.saved []) w := by
  have hnone : Json.null.isTruthy = false := rfl
  rw [Command.saveVouchers, Command.run, Command.runSaveSettings, saveCredential_of_falsy hnone,
    saveCredential_of_falsy hnone]
  simp [Command.parseVouchers, ofCrash]

/-- A process has these vouchers in its store and shows them, and to save them line by line changes
nothing, before they were shown and after. -/
structure World.KeepsVouchers (w : World) (ids : List String) : Prop where
  stored : exec (storedTexts Store.vouchersName) w = (.ok ids, w)
  saved : exec (Command.saveVouchers ("\n".intercalate ids)).run w = (.ok (.saved []), w)
  shown : ∀ reply v, exec Command.getSettings.run w = (.ok reply, v) →
    reply.toJson.member "voucher_models" = .texts ids ∧
      exec (Command.saveVouchers ("\n".intercalate ids)).run v = (.ok (.saved []), v)

theorem Store.texts_of_find? {s : Store} {ids : List String}
    (h : s.values.find? name = some (.texts ids)) : s.texts name = ids := by
  have hids : (ids.map Json.str).filterMap Json.text? = ids := by
    rw [List.filterMap_map]
    exact List.filterMap_some
  rw [texts, get?, h]
  exact hids

/-- What a view shows of the vouchers is read from the store of the process. -/
theorem member_vouchers_of_run {reply : Reply} {v : World} {s : Store} (hstore : w.store = some s)
    (h : exec Command.getSettings.run w = (.ok reply, v)) :
    reply.toJson.member "voucher_models" = .texts (s.texts Store.vouchersName) := by
  obtain ⟨view, rfl, hvouchers, -⟩ := exec_getSettings_eq_ok h
  rw [Reply.toJson, view.member_vouchers, hvouchers, World.storedVouchers, hstore]
  rfl

/-- Vouchers in a store that was written are kept. -/
theorem World.Written.keepsVouchers {ids : List String} (h : w.Written dir values)
    (hvalue : values.find? Store.vouchersName = some (.texts ids))
    (hids : ∀ id ∈ ids, Command.IsVoucher id) : w.KeepsVouchers ids := by
  have hstored : Store.texts ⟨dir.child Store.filename, values⟩ Store.vouchersName = ids :=
    Store.texts_of_find? hvalue
  have hsaved {v : World} (hv : v.Written dir values) :
      exec (Command.saveVouchers ("\n".intercalate ids)).run v = (.ok (.saved []), v) := by
    rw [exec_saveVouchers, Command.voucherModels_intercalate hids,
      exec_bind_ok (hv.exec_setStored hvalue)]
    rfl
  refine ⟨?_, hsaved h, fun reply v hrun => ⟨?_, ?_⟩⟩
  · rw [exec_storedTexts h.store, hstored]
  · rw [member_vouchers_of_run h.store hrun, hstored]
  · have hkept := agrees_only.1 ((reads_written dir values).run (c := .getSettings)
      (fun _ _ _ _ hsaves => nomatch hsaves) fun _ _ _ hrecognize => nomatch hrecognize) w h
    rw [hrun] at hkept
    exact hsaved hkept

/-- The vouchers of a text are the lines with a slash, trimmed, in order, whichever line breaks the
text has. None of them is empty, begins or ends with a blank or has a line break in it, and a text
of them makes the same list. Once they are saved they are kept, by the process and by one that reads
them from their file. -/
theorem vouchers_stable (text : String) :
    (∃ ls, (∀ ls', Text.Cut text.toList ls' ↔ ls' = ls) ∧
      Command.voucherModels text = (ls.filter fun line => '/' ∈ line).map
        fun line => Text.trimmed (String.ofList line)) ∧
    (∀ id ∈ Command.voucherModels text,
      id ≠ "" ∧ Text.Trimmed id ∧ ∀ c ∈ id.toList, Text.isLineBreak c = false) ∧
    Command.voucherModels ("\n".intercalate (Command.voucherModels text)) =
      Command.voucherModels text ∧
    ∀ (w : World) (dir : Path) (values : Dictionary Json),
      w.configuration.dataPath = .ok dir →
      w.store = some ⟨dir.child Store.filename, values⟩ →
      w.disk.Accepts (dir.child Store.filename) → (Json.obj values).Sound →
        ∃ v u, exec (Command.saveVouchers text).run w = (.ok (.saved []), v) ∧
          v.KeepsVouchers (Command.voucherModels text) ∧
          exec openStore (restarted v) = (.ok (), u) ∧
          u.KeepsVouchers (Command.voucherModels text) := by
  have hids (id : String) (hid : id ∈ Command.voucherModels text) : Command.IsVoucher id :=
    Command.isVoucher_of_mem hid
  refine ⟨⟨Text.lines text.toList, fun _ => Text.cut_iff, Command.voucherModels_eq text⟩,
    fun id hid => ⟨(hids id hid).ne_empty, (hids id hid).trimmed, (hids id hid).unbroken⟩,
    Command.voucherModels_intercalate hids, fun w dir values hdata hstore haccepts hsound => ?_⟩
  obtain ⟨v, hsaved, hv⟩ := written_saveStore hdata haccepts
    (values.assign Store.vouchersName (.texts (Command.voucherModels text)))
  have hrun : exec (Command.saveVouchers text).run w = (.ok (.saved []), v) := by
    rw [exec_saveVouchers, exec_bind_ok ((exec_setStored hstore _ _).trans hsaved)]
    rfl
  have hsound' := hsound.assign Store.vouchersName
    (Json.Plain.texts (Command.voucherModels text)).everywhere
  have hvalue := Dictionary.find?_assign_self values Store.vouchersName
    (.texts (Command.voucherModels text))
  obtain ⟨u, hopened, hu⟩ := hv.openStore_restarted hsound'
  exact ⟨v, u, hrun, hv.keepsVouchers hvalue hids, hopened,
    hu.keepsVouchers (Store.find?_merge_missing hvalue) hids⟩

/-- A service with settings that is told where its data is. -/
def residing : World :=
  { validating with
    configuration :=
      ⟨[("FORMULASNAP_DATA_DIR", .str "/data"), ("FORMULASNAP_LANG", .str "en")], []⟩ }

/-- Line breaks of five kinds, an empty line, and blanks around an id. -/
def mixedLines : String :=
  "a/b\r\n\n \tc/d \u2028none\u000b/\u0085"

theorem vouchers_stable_mixedLines :
    ∃ v u, exec (Command.saveVouchers mixedLines).run residing = (.ok (.saved []), v) ∧
      exec openStore (restarted v) = (.ok (), u) ∧ u.KeepsVouchers ["a/b", "c/d", "/"] := by
  have hids : Command.voucherModels mixedLines = ["a/b", "c/d", "/"] := by decide +kernel
  obtain ⟨v, u, hrun, -, hopened, hkept⟩ := (vouchers_stable mixedLines).2.2.2 residing
    ⟨"/", ["data"]⟩ tokenSettings (eq_ok_of_toOption (by decide +kernel)) rfl accepts_validating
    sound_tokenSettings
  exact ⟨v, u, hrun, hopened, hids ▸ hkept⟩

end FormulaOcr
