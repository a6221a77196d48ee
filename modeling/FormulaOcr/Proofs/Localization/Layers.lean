import FormulaOcr.Proofs.Localization.Loading
import FormulaOcr.Proofs.Localization.Shipped
import FormulaOcr.Proofs.Usage.File

/-! Tables laid over each other. Under each key a translator finds what the last table says that
has the key, so the tables form a chain, from what the host overrides down to the built-in English
messages. The table for English is laid under the one for the fallback even if English is the
language itself; there, and only there, the chain is out of order. -/

namespace FormulaOcr

namespace Dictionary

variable {α : Type}

/-- In a dictionary that was laid over another one, its own entries are found first. -/
theorem find?_merge (d : Dictionary α) {later : Dictionary α} (hlater : later.keys.Nodup)
    (key : String) : (d.merge later).find? key = (later.find? key).or (d.find? key) := by
  induction later generalizing d with
  | nil => rfl
  | cons entry later ih =>
    obtain ⟨k, value⟩ := entry
    obtain ⟨hk, hlater⟩ := List.nodup_cons.1 hlater
    change ((d.assign k value).merge later).find? key = _
    rw [ih _ hlater, find?_cons]
    split_ifs with heq
    · subst heq
      rw [find?_of_notMem hk, find?_assign_self, Option.none_or, Option.some_or]
    · rw [find?_assign_of_ne d value heq]

end Dictionary

namespace Localization

theorem find?_entries (table : Dictionary String) (key : String) :
    (entries table).find? key = (table.find? key).map .str := by
  induction table with
  | nil => rfl
  | cons entry table ih =>
    obtain ⟨k, text⟩ := entry
    change Dictionary.find? ((k, Json.str text) :: entries table) key = _
    rw [Dictionary.find?_cons, Dictionary.find?_cons, ih]
    split_ifs <;> rfl

theorem keys_entries (table : Dictionary String) : (entries table).keys = table.keys :=
  Dictionary.keys_map Json.str table

theorem entries_injective : Function.Injective entries := by
  intro table table' h
  refine List.map_injective_iff.2 ?_ h
  rintro ⟨key, text⟩ ⟨key', text'⟩ heq
  rw [Prod.mk.injEq, Json.str.injEq] at heq
  exact Prod.ext heq.1 heq.2

/-- Tables laid over each other, the first one at the bottom. -/
def laid (tables : List (Dictionary String)) : Dictionary Json :=
  tables.foldl (fun messages table => messages.merge (entries table)) []

/-- What the first of some tables says that has a key; the key itself if none has it. -/
def firstOf (tables : List (Dictionary String)) (key : String) : String :=
  (tables.findSome? (·.find? key)).getD key

theorem firstOf_cons (table : Dictionary String) (tables : List (Dictionary String))
    (key : String) :
    firstOf (table :: tables) key = (table.find? key).getD (firstOf tables key) := by
  rw [firstOf, List.findSome?_cons]
  cases table.find? key <;> rfl

theorem firstOf_empty_cons (tables : List (Dictionary String)) (key : String) :
    firstOf ([] :: tables) key = firstOf tables key :=
  firstOf_cons [] tables key

/-- A table that was asked before has nothing to say. -/
theorem firstOf_twice (table : Dictionary String) (tables : List (Dictionary String))
    (key : String) : firstOf (table :: table :: tables) key = firstOf (table :: tables) key := by
  rw [firstOf_cons, firstOf_cons]
  cases table.find? key <;> rfl

/-- Under a key stands what the topmost table says that has the key. -/
theorem find?_laid {tables : List (Dictionary String)} (h : ∀ table ∈ tables, table.keys.Nodup)
    (key : String) :
    (laid tables).find? key = (tables.reverse.findSome? (·.find? key)).map .str := by
  -- along the tables from the top, since each of them is laid over all that stand before it
  induction tables using List.reverseRecOn with
  | nil => rfl
  | append_singleton tables table ih =>
    have hbelow := ih fun other hother => h other (List.mem_append_left _ hother)
    have htable : (entries table).keys.Nodup := by
      rw [keys_entries]
      exact h table (List.mem_append_right _ (List.mem_singleton_self table))
    rw [laid, List.foldl_append, List.foldl_cons, List.foldl_nil, ← laid,
      Dictionary.find?_merge _ htable, hbelow, find?_entries, List.reverse_append,
      List.reverse_singleton, List.singleton_append, List.findSome?_cons]
    cases table.find? key <;> rfl

/-- The table that the file for a language in a directory holds: no file an empty one, and a file
an object of texts. -/
inductive Table (disk : Disk) (directory : Path) (language : String) : Dictionary String → Prop
  | missing (h : disk.hasFile (directory.child (language ++ ".json")) = .ok false) :
    Table disk directory language []
  | held {content : Bytes} {table : Dictionary String}
    (hread : disk.read (directory.child (language ++ ".json")) = .ok content)
    (hjson : Json.inBytes content = some (.obj (entries table))) :
    Table disk directory language table

namespace Table

variable {disk : Disk} {directory : Path} {language : String} {table table' : Dictionary String}

theorem readTable (h : Table disk directory language table) :
    readTable disk directory language = .ok (entries table) := by
  unfold Localization.readTable
  cases h with
  | missing h =>
    simp only [h, Except.mapError, bind, Except.bind]
    rfl
  | held hread hjson =>
    obtain ⟨text, htext, hvalue⟩ := readText_of_inBytes hread hjson
    simp only [Disk.hasFile_of_read hread, htext, hvalue, Except.mapError, bind, Except.bind,
      if_true]
    rfl

theorem nodup (h : Table disk directory language table) : table.keys.Nodup := by
  cases h with
  | missing h => exact List.nodup_nil
  | held hread hjson =>
    have hdistinct := Json.inBytes_distinct hjson
    rw [Json.Distinct, Json.Everywhere] at hdistinct
    exact keys_entries table ▸ hdistinct.1

theorem unique (h : Table disk directory language table)
    (h' : Table disk directory language table') : table = table' :=
  entries_injective (Except.ok.inj (h.readTable.symm.trans h'.readTable))

/-- The file of a table with distinct keys holds this table. -/
theorem of_fileText (hkeys : table.keys.Nodup)
    (hread : disk.read (directory.child (language ++ ".json")) =
      .ok (Encoding.Utf8.encode (fileText table))) : Table disk directory language table := by
  have hsound := sound_entries hkeys
  have hwritten : fileText table = Json.write Json.indented (.obj (entries table)) := rfl
  refine .held hread ?_
  rw [hwritten, Json.inBytes_written _ hsound.distinct, Json.reread_of_sound hsound]

end Table

/-- What the host overrides, as the service is told. -/
def told : Option (Dictionary String) → Json
  | none => .null
  | some host => .obj (entries host)

section Load

variable {disk : Disk} {directory : Path} {language fallback : String}
  {own second english host : Dictionary String} {key theirs : String}

/-- The tables as they are laid, the lowest one first. A file that was laid before is not laid
again. -/
def layers (language fallback : String) (own second english host : Dictionary String) :
    List (Dictionary String) :=
  [builtIn, english, if fallback = "en" then [] else second,
    if language = "en" ∨ language = fallback then [] else own, host]

theorem load_layers (hown : Table disk directory language own)
    (hsecond : Table disk directory fallback second) (henglish : Table disk directory "en" english)
    (host : Option (Dictionary String)) :
    Translator.load disk directory language fallback (told host) =
      .ok ⟨laid (layers language fallback own second english (host.getD []))⟩ := by
  have hknown : (language = "en" || language = fallback) =
      decide (language = "en" ∨ language = fallback) := by
    simp
  have htold : (told host).isTruthy = true ∧
        (tableEntries (told host)).mapError Crash.table = .ok (entries (host.getD [])) ∨
      (told host).isTruthy = false ∧ host.getD [] = [] := by
    rcases host with _ | _ | ⟨entry, host⟩
    · exact .inr ⟨rfl, rfl⟩
    · exact .inr ⟨rfl, rfl⟩
    · exact .inl ⟨rfl, rfl⟩
  have hnone : entries [] = [] := rfl
  unfold Translator.load
  simp only [henglish.readTable, hsecond.readTable, hown.readTable, hknown, decide_eq_true_eq,
    bind, Except.bind]
  rcases htold with ⟨htruthy, hhost⟩ | ⟨htruthy, hhost⟩
  · simp only [htruthy, hhost, if_true, layers]
    split_ifs <;> simp only [laid, hnone, List.foldl_cons, List.foldl_nil] <;> rfl
  · simp only [htruthy, hhost, Bool.false_eq_true, if_false, layers]
    split_ifs <;> simp only [laid, hnone, List.foldl_cons, List.foldl_nil] <;> rfl

/-- The tables in the order in which they are documented to be asked. -/
def documented (own second english host : Dictionary String) : List (Dictionary String) :=
  [host, own, second, english, builtIn]

/-- Where the fallback comes before the language: the language is English, the host leaves the key
alone, and both files have a text for it, the fallback another one. -/
structure Overtaken (language : String) (own second host : Dictionary String)
    (key theirs : String) : Prop where
  english : language = "en"
  left : host.find? key = none
  fallback : second.find? key = some theirs
  differs : ∃ mine, own.find? key = some mine ∧ mine ≠ theirs

theorem reverse_layers (language fallback : String)
    (own second english host : Dictionary String) :
    (layers language fallback own second english host).reverse =
      [host, if language = "en" ∨ language = fallback then [] else own,
        if fallback = "en" then [] else second, english, builtIn] := rfl

theorem firstOf_overtaken (hown : Table disk directory language own)
    (hsecond : Table disk directory fallback second)
    (h : Overtaken language own second host key theirs) (english : Dictionary String) :
    firstOf (layers language fallback own second english host).reverse key = theirs := by
  obtain ⟨rfl, hleft, hfallback, mine, hmine, hne⟩ := h
  have hother : fallback ≠ "en" := by
    rintro rfl
    rw [hown.unique hsecond, hfallback] at hmine
    exact hne (Option.some.inj hmine).symm
  rw [reverse_layers, if_pos (.inl rfl), if_neg hother]
  simp [firstOf_cons, hleft, hfallback]

/-- In English, the fallback comes before the language, which makes no difference where it has no
text of its own. -/
theorem firstOf_english (hown : Table disk directory "en" own)
    (hsecond : Table disk directory fallback second)
    (hfollows : ∀ theirs, ¬ Overtaken "en" own second host key theirs) :
    firstOf (layers "en" fallback own second own host).reverse key =
      firstOf (documented own second own host) key := by
  rw [reverse_layers, documented, if_pos (.inl rfl)]
  by_cases hfallback : fallback = "en"
  · subst hfallback
    obtain rfl := hown.unique hsecond
    rw [if_pos rfl]
    simp only [firstOf_cons host, firstOf_empty_cons, firstOf_twice]
  · rw [if_neg hfallback]
    cases hhost : host.find? key with
    | some text => simp [firstOf_cons, hhost]
    | none =>
      cases hmine : own.find? key with
      | none => simp [firstOf_cons, hhost, hmine]
      | some mine =>
        cases htheirs : second.find? key with
        | none => simp [firstOf_cons, hhost, hmine, htheirs]
        | some theirs =>
          have hsame : mine = theirs := by
            by_contra hne
            exact hfollows theirs ⟨rfl, hhost, htheirs, mine, hmine, hne⟩
          simp [firstOf_cons, hhost, hmine, htheirs, hsame]

/-- In other languages, a table that is left out is one that is laid elsewhere. -/
theorem firstOf_other (hne : language ≠ "en") (hown : Table disk directory language own)
    (hsecond : Table disk directory fallback second)
    (henglish : Table disk directory "en" english) (host : Dictionary String) (key : String) :
    firstOf (layers language fallback own second english host).reverse key =
      firstOf (documented own second english host) key := by
  rw [reverse_layers, documented]
  by_cases hfallback : language = fallback
  · subst hfallback
    obtain rfl := hown.unique hsecond
    rw [if_pos (.inr rfl), if_neg hne]
    simp only [firstOf_cons host, firstOf_empty_cons, firstOf_twice]
  · rw [if_neg (not_or.2 ⟨hne, hfallback⟩)]
    split_ifs with hsame
    · subst hsame
      obtain rfl := hsecond.unique henglish
      simp only [firstOf_cons host, firstOf_cons own, firstOf_empty_cons, firstOf_twice]
    · rfl

/-- The tables are laid in the documented order, but for the texts of the fallback that come before
English ones. -/
theorem firstOf_layers (host : Dictionary String) (key : String)
    (hown : Table disk directory language own) (hsecond : Table disk directory fallback second)
    (henglish : Table disk directory "en" english) :
    (∀ theirs, Overtaken language own second host key theirs →
      firstOf (layers language fallback own second english host).reverse key = theirs) ∧
    ((∀ theirs, ¬ Overtaken language own second host key theirs) →
      firstOf (layers language fallback own second english host).reverse key =
        firstOf (documented own second english host) key) := by
  refine ⟨fun theirs h => firstOf_overtaken hown hsecond h english, fun hfollows => ?_⟩
  by_cases hen : language = "en"
  · subst hen
    obtain rfl := hown.unique henglish
    exact firstOf_english hown hsecond hfollows
  · exact firstOf_other hen hown hsecond henglish host key

theorem nodup_builtIn : (Dictionary.keys builtIn).Nodup := by
  decide +kernel

/-- The chain of tables. Whatever the files of a directory and the host say, a message without
values is what the first table says that has its key: the host's, that of the language, that of the
fallback, that of English, the built-in one; and the key itself where none has it. The exception is
English as the language and a key that the host leaves alone, for which the fallback has a text
other than the English one: it is the fallback's that is shown. -/
theorem message_of_chain (hown : Table disk directory language own)
    (hsecond : Table disk directory fallback second) (henglish : Table disk directory "en" english)
    {host : Option (Dictionary String)} (hhost : (host.getD []).keys.Nodup) :
    ∃ t, Translator.load disk directory language fallback (told host) = .ok t ∧
      ∀ key,
        (∀ theirs, Overtaken language own second (host.getD []) key theirs →
          t.translate key [] = .ok (.str theirs) ∧
            theirs ≠ firstOf (documented own second english (host.getD [])) key) ∧
        ((∀ theirs, ¬ Overtaken language own second (host.getD []) key theirs) →
          t.translate key [] =
            .ok (.str (firstOf (documented own second english (host.getD [])) key))) := by
  refine ⟨_, load_layers hown hsecond henglish host, fun key => ?_⟩
  have hdistinct : ∀ table ∈ layers language fallback own second english (host.getD []),
      table.keys.Nodup := by
    simp only [layers, List.forall_mem_cons]
    refine ⟨nodup_builtIn, henglish.nodup, ?_, ?_, hhost, by simp⟩
    · split_ifs
      · exact List.nodup_nil
      · exact hsecond.nodup
    · split_ifs
      · exact List.nodup_nil
      · exact hown.nodup
  have hshown (text : String) (h : firstOf
      (layers language fallback own second english (host.getD [])).reverse key = text) :
      Translator.translate ⟨laid (layers language fallback own second english (host.getD []))⟩
        key [] = .ok (.str text) := by
    subst h
    unfold Translator.translate
    rw [find?_laid hdistinct, firstOf]
    cases List.findSome? _ _ <;> rfl
  obtain ⟨hovertaken, hfollows⟩ := firstOf_layers (host.getD []) key hown hsecond henglish
  refine ⟨fun theirs h => ⟨hshown theirs (hovertaken theirs h), ?_⟩, fun h => hshown _ (hfollows h)⟩
  obtain ⟨mine, hmine, hne⟩ := h.differs
  rw [documented, firstOf_cons, firstOf_cons, h.left, hmine]
  exact hne.symm

end Load

/-- With the tables that come with the service, English as the language and Chinese as the fallback
the provider has its Chinese name, though the English file names it. What only the Chinese file says
is said in Chinese, as it is documented. -/
theorem message_of_chain_fallback :
    ∃ t, Translator.load (install ⟨[]⟩) directory "en" "zh" (told none) = .ok t ∧
      t.translate "models.siliconflow_provider" [] = .ok (.str "硅基流动") ∧
      firstOf (documented english chinese english [])
        "models.siliconflow_provider" = "SiliconFlow" ∧
      t.translate "pricing.free" [] = .ok (.str "免费") := by
  have henglish : Table (install ⟨[]⟩) directory "en" english :=
    .of_fileText (by decide) installed_install.1
  have hchinese : Table (install ⟨[]⟩) directory "zh" chinese :=
    .of_fileText (by decide) installed_install.2
  have hnone : ((none : Option (Dictionary String)).getD []).keys.Nodup := List.nodup_nil
  obtain ⟨t, hload, hshown⟩ := message_of_chain henglish hchinese henglish hnone
  have hovertaken : Overtaken "en" english chinese [] "models.siliconflow_provider"
      "硅基流动" :=
    ⟨rfl, rfl, by decide, "SiliconFlow", by decide, by decide⟩
  have hfollows (theirs : String) :
      ¬ Overtaken "en" english chinese [] "pricing.free" theirs := by
    rintro ⟨-, -, -, mine, hmine, -⟩
    simp [english, Dictionary.find?_cons] at hmine
  exact ⟨t, hload, ((hshown _).1 _ hovertaken).1, by decide, (hshown _).2 hfollows⟩

end Localization

end FormulaOcr
