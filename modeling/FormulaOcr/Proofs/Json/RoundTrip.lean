import FormulaOcr.Proofs.Json.Everywhere
import FormulaOcr.Proofs.Json.Spelling
import FormulaOcr.Proofs.Json.Strings

/-! A value that is written in any layout can be read, if its objects name no member twice. What is
read differs from it in numbers alone, and is the same if these are read back one by one. -/

namespace FormulaOcr.Json

/-- The spelling of a finite number is read as that number. -/
def ReadsBack (x : Binary64) : Prop :=
  match x with
  | .finite _ _ => takeNumber x.repr = some (.float x, [])
  | _ => True

/-- Every number with a fraction is read back from its spelling. -/
def NumbersReadBack (j : Json) : Prop :=
  j.Everywhere ReadsBack (fun _ => True)

/-- What can be told from its text. -/
def Sound (j : Json) : Prop :=
  j.Everywhere ReadsBack List.Nodup

theorem Distinct.sound {j : Json} (h : j.Distinct) (hn : j.NumbersReadBack) : j.Sound :=
  Everywhere.combine (fun _ _ hx => hx) (fun _ hks _ => hks) h hn

theorem Sound.numbersReadBack {j : Json} (h : j.Sound) : j.NumbersReadBack :=
  Everywhere.combine (fun _ hx _ => hx) (fun _ _ _ => trivial) h h

theorem Sound.distinct {j : Json} (h : j.Sound) : j.Distinct :=
  Everywhere.combine (fun _ _ _ => trivial) (fun _ hks _ => hks) h h

/-- The order of the members does not matter. -/
theorem Sound.perm {values values' : Dictionary Json} (h : (Json.obj values).Sound)
    (hperm : values.Perm values') : (Json.obj values').Sound := by
  rw [Sound, Everywhere, everywhereMembers_iff] at h ⊢
  exact ⟨(hperm.map Prod.fst).nodup_iff.1 h.1,
    fun member hmember => h.2 member (hperm.mem_iff.2 hmember)⟩

/-- Every number that is read is one of the format, so it is read back. -/
theorem readable_readsBack : Readable ReadsBack where
  decimal negative digits exponent := by
    cases h : Binary64.ofDecimal negative digits exponent with
    | finite sign units => exact takeNumber_representable (Binary64.representable_ofDecimal h) sign
    | _ => trivial
  infinity _ := trivial
  nan := trivial

theorem readDecoded_sound {t : List Char} {j : Json} (h : readDecoded t = .ok j) : j.Sound :=
  readDecoded_everywhere readable_readsBack h

/-- What was read from a text can be told from its own. -/
theorem read_sound {t : List Char} {j : Json} (h : read t = .ok j) : j.Sound :=
  read_everywhere readable_readsBack h

/-- What the spelling of a number is read as. -/
def respelled : Binary64 → Json
  | .finite negative units =>
    ((takeNumber (Binary64.repr (.finite negative units))).map (·.1)).getD .null
  | x => .float x

theorem takeNumber_respelled (negative : Bool) (units : ℕ) :
    takeNumber (Binary64.repr (.finite negative units)) =
      some (respelled (.finite negative units), []) := by
  obtain ⟨digits, exponent, hj, -⟩ := takeNumber_repr negative units
  rw [respelled, hj]
  rfl

theorem respelled_of_readsBack {x : Binary64} (h : ReadsBack x) : respelled x = .float x := by
  cases x with
  | finite negative units =>
    rw [ReadsBack] at h
    rw [respelled, h]
    rfl
  | _ => rfl

mutual

/-- A value as it is read from its text: each number as its spelling is read. -/
def reread : Json → Json
  | .float x => respelled x
  | .arr items => .arr (rereadItems items)
  | .obj members => .obj (rereadMembers members)
  | j => j

def rereadItems : List Json → List Json
  | [] => []
  | item :: items => reread item :: rereadItems items

def rereadMembers : List (String × Json) → List (String × Json)
  | [] => []
  | (name, value) :: members => (name, reread value) :: rereadMembers members

end

theorem rereadMembers_eq (members : List (String × Json)) :
    rereadMembers members = members.map fun member => (member.1, reread member.2) := by
  induction members with
  | nil => rfl
  | cons member members ih => rw [rereadMembers, ih, List.map_cons]

mutual

/-- What can be told from its text is read back. -/
theorem reread_of_sound : ∀ {j : Json}, j.Sound → reread j = j
  | .float x, h => by
    rw [Sound, Everywhere] at h
    rw [reread, respelled_of_readsBack h]
  | .arr items, h => by
    rw [Sound, Everywhere] at h
    rw [reread, rereadItems_of_sound h]
  | .obj members, h => by
    rw [Sound, Everywhere] at h
    rw [reread, rereadMembers_of_sound h.2]
  | .null, _ | .bool _, _ | .int _, _ | .str _, _ => by simp [reread]

theorem rereadItems_of_sound : ∀ {items : List Json}, EverywhereItems ReadsBack List.Nodup items →
    rereadItems items = items
  | [], _ => rfl
  | _ :: _, h => by
    rw [EverywhereItems] at h
    rw [rereadItems, reread_of_sound h.1, rereadItems_of_sound h.2]

theorem rereadMembers_of_sound : ∀ {members : List (String × Json)},
    EverywhereMembers ReadsBack List.Nodup members → rereadMembers members = members
  | [], _ => rfl
  | (_, _) :: _, h => by
    rw [EverywhereMembers] at h
    rw [rereadMembers, reread_of_sound h.1, rereadMembers_of_sound h.2]

end

/-! Blanks between the parts of a text. -/

theorem skipSpace_of_not {c : Char} (h : isSpace c = false) (t : List Char) :
    skipSpace (c :: t) = c :: t := by
  rw [skipSpace, List.dropWhile_cons_of_neg (by simp [h])]

theorem skipSpace_blank {blank : List Char} (h : ∀ c ∈ blank, isSpace c = true) (t : List Char) :
    skipSpace (blank ++ t) = skipSpace t := by
  induction blank with
  | nil => rfl
  | cons c blank ih =>
    rw [List.cons_append, skipSpace, List.dropWhile_cons_of_pos (h c (by simp))]
    exact ih fun d hd => h d (List.mem_cons_of_mem c hd)

theorem break_blank (l : Layout) (level : ℕ) : ∀ c ∈ l.break level, isSpace c = true := by
  intro c hc
  unfold Layout.break at hc
  split at hc
  · simp at hc
  · rcases List.mem_cons.1 hc with rfl | hc
    · rfl
    · rw [List.eq_of_mem_replicate hc]
      rfl

theorem comma_eq (l : Layout) (level : ℕ) :
    ∃ blank, l.comma level = ',' :: blank ∧ ∀ c ∈ blank, isSpace c = true := by
  unfold Layout.comma
  split
  · refine ⟨[' '], rfl, fun c hc => ?_⟩
    obtain rfl := List.mem_singleton.1 hc
    rfl
  · exact ⟨l.break level, rfl, break_blank l level⟩

theorem skipSpace_break (l : Layout) (level : ℕ) (t : List Char) :
    skipSpace (l.break level ++ t) = skipSpace t :=
  skipSpace_blank (break_blank l level) t

theorem delimited_break (l : Layout) (level : ℕ) {t : List Char} (h : Delimited t) :
    Delimited (l.break level ++ t) := by
  cases hb : l.break level with
  | nil => exact h
  | cons c blank =>
    have hc : isSpace c = true := break_blank l level c (by simp [hb])
    refine delimited_cons ?_
    simp only [isSpace, Bool.or_eq_true, beq_iff_eq] at hc
    rcases hc with ((rfl | rfl) | rfl) | rfl <;> decide

/-! Words and numbers. -/

theorem readScalar_of_number {t rest : List Char} {j : Json} (hr : Delimited rest)
    (h : takeNumber t = some (j, [])) : readScalar (t ++ rest) = .ok (j, rest) := by
  have happend := takeNumber_append hr h
  have hnone : ∀ entry ∈ words, Text.dropFront? entry.1 (t ++ rest) = none := by
    obtain ⟨sign, c, tail, rfl, hsign, hc⟩ := takeNumber_head h
    have hne : c ≠ 'n' ∧ c ≠ 't' ∧ c ≠ 'f' ∧ c ≠ 'N' ∧ c ≠ 'I' ∧ c ≠ '-' := by
      refine ⟨?_, ?_, ?_, ?_, ?_, ?_⟩ <;> · rintro rfl; revert hc; decide
    rcases hsign with rfl | rfl
    · simp [words, Text.dropFront?, hne, Ne.symm]
    · simp [words, Text.dropFront?, hne, Ne.symm]
  unfold readScalar
  split
  · next found hfound =>
    obtain ⟨entry, hentry, hsome⟩ := List.exists_of_findSome?_eq_some hfound
    simp [hnone entry hentry] at hsome
  · rw [happend]

/-! What a written value begins with. -/

/-- Characters at the front of a value: ASCII, no blanks and no closing brackets. -/
def opensValue (c : Char) : Bool :=
  !isSpace c && c != ']' && c != '}' && c.toNat < 0x80

theorem number_opens {t : List Char} {j : Json} (h : takeNumber t = some (j, [])) :
    ∃ c tail, t = c :: tail ∧ opensValue c = true ∧ c ≠ '"' ∧ c ≠ '{' ∧ c ≠ '[' := by
  obtain ⟨sign, c, tail, rfl, rfl | rfl, hc⟩ := takeNumber_head h
  · refine ⟨c, tail, rfl, ?_, ?_, ?_, ?_⟩
    · have hbound : c.toNat < 0x80 := by
        simp only [Text.isAsciiDigit, Bool.and_eq_true, decide_eq_true_eq] at hc
        exact lt_of_le_of_lt hc.2 (by decide)
      simp only [opensValue, isSpace, Bool.and_eq_true, Bool.not_eq_true', bne_iff_ne, ne_eq,
        Bool.or_eq_false_iff, beq_eq_false_iff_ne, decide_eq_true_eq]
      refine ⟨⟨⟨⟨⟨⟨?_, ?_⟩, ?_⟩, ?_⟩, ?_⟩, ?_⟩, hbound⟩ <;> · rintro rfl; revert hc; decide
    all_goals rintro rfl; revert hc; decide
  · exact ⟨'-', c :: tail, rfl, by decide, by decide, by decide, by decide⟩

theorem writeValue_opens (l : Layout) (level : ℕ) (j : Json) :
    ∃ c tail, writeValue l level j = c :: tail ∧ opensValue c = true := by
  match j with
  | .null => exact ⟨'n', "ull".toList, rfl, by decide⟩
  | .bool true => exact ⟨'t', "rue".toList, rfl, by decide⟩
  | .bool false => exact ⟨'f', "alse".toList, rfl, by decide⟩
  | .int n =>
    obtain ⟨c, tail, ht, hc, -⟩ := number_opens (takeNumber_writeInt n)
    exact ⟨c, tail, ht, hc⟩
  | .float .nan => exact ⟨'N', "aN".toList, rfl, by decide⟩
  | .float (.infinity true) => exact ⟨'-', "Infinity".toList, rfl, by decide⟩
  | .float (.infinity false) => exact ⟨'I', "nfinity".toList, rfl, by decide⟩
  | .float (.finite negative units) =>
    obtain ⟨c, tail, ht, hc, -⟩ := number_opens (takeNumber_respelled negative units)
    exact ⟨c, tail, ht, hc⟩
  | .str s => exact ⟨'"', _, rfl, by decide⟩
  | .arr [] => exact ⟨'[', _, rfl, by decide⟩
  | .arr (_ :: _) => exact ⟨'[', _, by rw [writeValue]; rfl, by decide⟩
  | .obj [] => exact ⟨'{', _, rfl, by decide⟩
  | .obj (_ :: _) => exact ⟨'{', _, by rw [writeValue]; rfl, by decide⟩

theorem skipSpace_value (l : Layout) (level : ℕ) (j : Json) (rest : List Char) :
    skipSpace (writeValue l level j ++ rest) = writeValue l level j ++ rest := by
  obtain ⟨c, tail, ht, hc⟩ := writeValue_opens l level j
  rw [ht, List.cons_append]
  apply skipSpace_of_not
  simp only [opensValue, Bool.and_eq_true, Bool.not_eq_true'] at hc
  exact hc.1.1.1

theorem writeString_eq (ascii : Bool) (s : String) (rest : List Char) :
    writeString ascii s ++ rest = '"' :: (s.toList.flatMap (writeChar ascii) ++ '"' :: rest) := by
  simp [writeString]

theorem readValue_writeString (ascii : Bool) (s : String) (fuel : ℕ) (rest : List Char) :
    readValue (fuel + 1) (writeString ascii s ++ rest) = .ok (.str s, rest) := by
  have h := readString_writeString (writeString ascii s ++ rest) ascii s rest
  rw [writeString_eq] at h ⊢
  simp only [readValue, h, Except.map, String.ofList_toList]

/-- A number is read wherever it is delimited. -/
theorem readValue_number {t rest : List Char} {j : Json} (h : takeNumber t = some (j, []))
    (hr : Delimited rest) (fuel : ℕ) : readValue (fuel + 1) (t ++ rest) = .ok (j, rest) := by
  obtain ⟨c, tail, rfl, -, h1, h2, h3⟩ := number_opens h
  rw [readValue.eq_def]
  dsimp only
  split
  · next hc => exact absurd (List.cons.inj hc).1 h1
  · next hc => exact absurd (List.cons.inj hc).1 h2
  · next hc => exact absurd (List.cons.inj hc).1 h3
  · exact readScalar_of_number hr h

/-! Arrays and objects, from what is known of their items and members. -/

/-- The text of a value is read as that value, but for its numbers, in front of whatever delimits
it. -/
def Returns (l : Layout) (level : ℕ) (j : Json) : Prop :=
  ∀ fuel rest, Delimited rest → 2 * (writeValue l level j).length ≤ fuel + 1 →
    readValue fuel (writeValue l level j ++ rest) = .ok (reread j, rest)

theorem length_writeValue_pos (l : Layout) (level : ℕ) (j : Json) :
    0 < (writeValue l level j).length := by
  obtain ⟨c, tail, ht, -⟩ := writeValue_opens l level j
  rw [ht, List.length_cons]
  omega

/-- What stands behind an item is delimited, whether it is another item or the end of the array. -/
theorem delimited_items (l : Layout) (level outer : ℕ) (items : List Json) (rest : List Char) :
    Delimited (writeItems l level items ++ (l.break outer ++ ']' :: rest)) := by
  cases items with
  | nil => exact delimited_break l outer (delimited_cons (by decide))
  | cons item items =>
    obtain ⟨blank, hcomma, -⟩ := comma_eq l level
    rw [writeItems, hcomma]
    exact delimited_cons (by decide)

theorem delimited_members (l : Layout) (level outer : ℕ) (members : List (String × Json))
    (rest : List Char) :
    Delimited (writeMembers l level members ++ (l.break outer ++ '}' :: rest)) := by
  cases members with
  | nil => exact delimited_break l outer (delimited_cons (by decide))
  | cons member members =>
    obtain ⟨blank, hcomma, -⟩ := comma_eq l level
    rw [writeMembers, hcomma]
    exact delimited_cons (by decide)

theorem length_writeItems_cons (l : Layout) (level : ℕ) (item : Json) (items : List Json) :
    (writeItems l level (item :: items)).length = (l.comma level).length +
      ((writeValue l level item).length + (writeItems l level items).length) := by
  simp [writeItems]

theorem length_writeMembers_cons (l : Layout) (level : ℕ) (member : String × Json)
    (members : List (String × Json)) :
    (writeMembers l level (member :: members)).length = (l.comma level).length +
      ((writeMember l level member).length + (writeMembers l level members).length) := by
  simp [writeMembers]

theorem length_writeMember (l : Layout) (level : ℕ) (member : String × Json) :
    (writeMember l level member).length =
      (writeString l.ascii member.1).length + 2 + (writeValue l level member.2).length := by
  obtain ⟨name, value⟩ := member
  simp only [writeMember, List.length_append, List.length_cons, List.length_nil]

theorem readItems_written (l : Layout) (level outer : ℕ) (rest : List Char) (items : List Json) :
    ∀ item fuel, (∀ j ∈ item :: items, Returns l level j) →
      2 * ((writeValue l level item).length + (writeItems l level items).length) ≤ fuel →
      readItems fuel (writeValue l level item ++
        (writeItems l level items ++ (l.break outer ++ ']' :: rest))) =
        .ok (rereadItems (item :: items), rest) := by
  -- an item takes fuel for its own text, and the comma behind it pays for the step to the next
  induction items with
  | nil =>
    intro item fuel hall hf
    have hreturns := hall item (by simp)
    have hpos := length_writeValue_pos l level item
    obtain ⟨fuel, rfl⟩ : ∃ n, fuel = n + 1 := ⟨fuel - 1, by omega⟩
    have hread := hreturns fuel _ (delimited_items l level outer [] rest) (by omega)
    rw [readItems, hread]
    simp only [bind, Except.bind, writeItems, List.nil_append, skipSpace_break,
      skipSpace_of_not (c := ']') rfl, pure, Except.pure, rereadItems]
  | cons next items ih =>
    intro item fuel hall hf
    have hreturns := hall item (by simp)
    have hpos := length_writeValue_pos l level item
    have hlength := length_writeItems_cons l level next items
    obtain ⟨fuel, rfl⟩ : ∃ n, fuel = n + 1 := ⟨fuel - 1, by omega⟩
    have hread := hreturns fuel _ (delimited_items l level outer (next :: items) rest) (by omega)
    have hnext := ih next fuel (fun j hj => hall j (List.mem_cons_of_mem item hj)) (by omega)
    obtain ⟨blank, hcomma, hblank⟩ := comma_eq l level
    rw [readItems, hread]
    simp only [bind, Except.bind, writeItems, hcomma, List.cons_append, List.append_assoc,
      skipSpace_of_not (c := ',') rfl, skipSpace_blank hblank,
      skipSpace_value l level next, hnext, pure, Except.pure, rereadItems]

/-- One member is read and put behind those that are known. -/
theorem readMembers_member (l : Layout) (level : ℕ) {name : String} {value : Json}
    {known : Dictionary Json} (hname : name ∉ known.keys)
    (hreturns : Returns l level value) {fuel : ℕ}
    (hf : 2 * (writeValue l level value).length ≤ fuel + 1) {rest : List Char}
    (hr : Delimited rest) :
    readMembers (fuel + 1) known (writeMember l level (name, value) ++ rest) =
      match skipSpace rest with
      | '}' :: rest => .ok (known ++ [(name, reread value)], rest)
      | ',' :: rest => readMembers fuel (known ++ [(name, reread value)]) (skipSpace rest)
      | rest => .error ⟨.expectingComma, rest⟩ := by
  have hstring := readString_writeString
    (writeMember l level (name, value) ++ rest) l.ascii name
    (':' :: ' ' :: (writeValue l level value ++ rest))
  have htext : writeMember l level (name, value) ++ rest =
      '"' :: (name.toList.flatMap (writeChar l.ascii) ++
        '"' :: ':' :: ' ' :: (writeValue l level value ++ rest)) := by
    simp [writeMember, writeString]
  have hspace : skipSpace (' ' :: (writeValue l level value ++ rest)) =
      writeValue l level value ++ rest :=
    skipSpace_value l level value rest
  rw [htext] at hstring ⊢
  rw [readMembers]
  simp only [hstring, bind, Except.bind, skipSpace_of_not (c := ':') rfl, hspace,
    hreturns fuel rest hr hf, String.ofList_toList, Dictionary.assign_of_notMem hname]
  rfl

theorem readMembers_written (l : Layout) (level outer : ℕ) (rest : List Char)
    (members : List (String × Json)) :
    ∀ member known fuel, (Dictionary.keys (known ++ member :: members)).Nodup →
      (∀ m ∈ member :: members, Returns l level m.2) →
      2 * ((writeMember l level member).length + (writeMembers l level members).length) ≤ fuel →
      readMembers fuel known (writeMember l level member ++
        (writeMembers l level members ++ (l.break outer ++ '}' :: rest))) =
          .ok (known ++ rereadMembers (member :: members), rest) := by
  have hfresh (member : String × Json) (known members : Dictionary Json)
      (h : (Dictionary.keys (known ++ member :: members)).Nodup) : member.1 ∉ known.keys := by
    simp only [Dictionary.keys, List.map_append, List.map_cons, List.nodup_append] at h
    exact fun hmem => h.2.2 member.1 hmem member.1 (by simp) rfl
  induction members with
  | nil =>
    rintro ⟨name, value⟩ known fuel hnodup hall hf
    have hreturns := hall (name, value) (by simp)
    rw [length_writeMember] at hf
    obtain ⟨fuel, rfl⟩ : ∃ n, fuel = n + 1 := ⟨fuel - 1, by omega⟩
    rw [readMembers_member l level (hfresh _ known [] hnodup) hreturns (by omega)
      (delimited_members l level outer [] rest)]
    simp only [writeMembers, List.nil_append, skipSpace_break, skipSpace_of_not (c := '}') rfl,
      rereadMembers]
  | cons next members ih =>
    rintro ⟨name, value⟩ known fuel hnodup hall hf
    have hreturns := hall (name, value) (by simp)
    have hlength := length_writeMembers_cons l level next members
    rw [length_writeMember] at hf
    obtain ⟨fuel, rfl⟩ : ∃ n, fuel = n + 1 := ⟨fuel - 1, by omega⟩
    have hnext := ih next (known ++ [(name, reread value)]) fuel
      (by simpa [Dictionary.keys] using hnodup)
      (fun m hm => hall m (List.mem_cons_of_mem _ hm)) (by omega)
    have hquote (t : List Char) : skipSpace (writeMember l level next ++ t) =
        writeMember l level next ++ t := by
      obtain ⟨name, value⟩ := next
      rfl
    obtain ⟨blank, hcomma, hblank⟩ := comma_eq l level
    rw [readMembers_member l level (hfresh _ known _ hnodup) hreturns (by omega)
      (delimited_members l level outer (next :: members) rest)]
    simp only [writeMembers, hcomma, List.cons_append, List.append_assoc,
      skipSpace_of_not (c := ',') rfl, skipSpace_blank hblank, hquote, hnext, List.nil_append,
      rereadMembers]

/-! Values, by recursion on their structure. -/

theorem distinct_items {items : List Json} (h : (arr items).Distinct) :
    ∀ j ∈ items, j.Distinct := by
  rw [Distinct, Everywhere] at h
  exact everywhereItems_iff.1 h

theorem distinct_members {members : List (String × Json)} (h : (obj members).Distinct) :
    (Dictionary.keys members).Nodup ∧ ∀ m ∈ members, m.2.Distinct := by
  rw [Distinct, Everywhere] at h
  exact ⟨h.1, everywhereMembers_iff.1 h.2⟩

theorem returns_arr {l : Layout} {level : ℕ} {items : List Json}
    (h : ∀ j ∈ items, Returns l (level + 1) j) : Returns l level (.arr items) := by
  intro fuel rest _ hf
  cases items with
  | nil =>
    rw [writeValue, List.length_cons] at hf
    obtain ⟨fuel, rfl⟩ : ∃ n, fuel = n + 1 := ⟨fuel - 1, by omega⟩
    rfl
  | cons item items =>
    simp only [writeValue, List.length_append, List.length_cons, List.length_nil] at hf
    obtain ⟨fuel, rfl⟩ : ∃ n, fuel = n + 1 := ⟨fuel - 1, by omega⟩
    have hread := readItems_written l (level + 1) level rest items item fuel h (by omega)
    obtain ⟨c, tail, ht, hc⟩ := writeValue_opens l (level + 1) item
    have hskip := skipSpace_value l (level + 1) item
      (writeItems l (level + 1) items ++ (l.break level ++ ']' :: rest))
    have htext : writeValue l level (.arr (item :: items)) ++ rest =
        '[' :: (l.break (level + 1) ++ (writeValue l (level + 1) item ++
          (writeItems l (level + 1) items ++ (l.break level ++ ']' :: rest)))) := by
      simp [writeValue]
    rw [htext, readValue, skipSpace_break, hskip]
    rw [ht] at hread ⊢
    simp only [List.cons_append] at hread ⊢
    split
    · next heq =>
      rw [(List.cons.inj heq).1] at hc
      exact absurd hc (by decide)
    · rw [hread]
      rfl

theorem returns_obj {l : Layout} {level : ℕ} {members : List (String × Json)}
    (hnodup : (Dictionary.keys members).Nodup)
    (h : ∀ m ∈ members, Returns l (level + 1) m.2) :
    Returns l level (.obj members) := by
  intro fuel rest _ hf
  cases members with
  | nil =>
    rw [writeValue, List.length_cons] at hf
    obtain ⟨fuel, rfl⟩ : ∃ n, fuel = n + 1 := ⟨fuel - 1, by omega⟩
    rfl
  | cons member members =>
    simp only [writeValue, List.length_append, List.length_cons, List.length_nil] at hf
    obtain ⟨fuel, rfl⟩ : ∃ n, fuel = n + 1 := ⟨fuel - 1, by omega⟩
    have hread := readMembers_written l (level + 1) level rest members member [] fuel hnodup h
      (by omega)
    obtain ⟨name, value⟩ := member
    have htext : writeValue l level (.obj ((name, value) :: members)) ++ rest =
        '{' :: (l.break (level + 1) ++ (writeMember l (level + 1) (name, value) ++
          (writeMembers l (level + 1) members ++ (l.break level ++ '}' :: rest)))) := by
      simp [writeValue]
    have hquote (t : List Char) : ∃ t', writeMember l (level + 1) (name, value) ++ t = '"' :: t' :=
      ⟨_, rfl⟩
    obtain ⟨t, ht⟩ := hquote (writeMembers l (level + 1) members ++ (l.break level ++ '}' :: rest))
    rw [htext, readValue, skipSpace_break, ht, skipSpace_of_not (c := '"') rfl]
    rw [ht] at hread
    change (readMembers fuel [] ('"' :: t)).map _ = _
    rw [hread]
    rfl

/-- Every value whose objects name no member twice can be read from its text, at any level of any
layout. -/
theorem returns (l : Layout) : ∀ (j : Json), j.Distinct → ∀ level, Returns l level j
  | .null, _, level => by
    intro fuel rest _ hf
    obtain ⟨fuel, rfl⟩ : ∃ n, fuel = n + 1 := ⟨fuel - 1, by simp [writeValue] at hf; omega⟩
    rfl
  | .bool b, _, level => by
    intro fuel rest _ hf
    obtain ⟨fuel, rfl⟩ : ∃ n, fuel = n + 1 :=
      ⟨fuel - 1, by cases b <;> simp [writeValue] at hf <;> omega⟩
    cases b <;> rfl
  | .int n, _, level => by
    intro fuel rest hr hf
    obtain ⟨c, tail, ht, -⟩ := number_opens (takeNumber_writeInt n)
    rw [writeValue, ht, List.length_cons] at hf
    obtain ⟨fuel, rfl⟩ : ∃ n, fuel = n + 1 := ⟨fuel - 1, by omega⟩
    rw [writeValue]
    exact readValue_number (takeNumber_writeInt n) hr fuel
  | .float x, _, level => by
    intro fuel rest hr hf
    have hpos := length_writeValue_pos l level (.float x)
    obtain ⟨fuel, rfl⟩ : ∃ n, fuel = n + 1 := ⟨fuel - 1, by omega⟩
    cases x with
    | nan => rfl
    | infinity negative => cases negative <;> rfl
    | finite negative units =>
      rw [writeValue]
      exact readValue_number (takeNumber_respelled negative units) hr fuel
  | .str s, _, level => by
    intro fuel rest _ hf
    rw [writeValue] at hf ⊢
    obtain ⟨fuel, rfl⟩ : ∃ n, fuel = n + 1 := ⟨fuel - 1, by simp [writeString] at hf; omega⟩
    exact readValue_writeString l.ascii s fuel rest
  | .arr items, h, level =>
    returns_arr fun j hj => returns l j (distinct_items h j hj) (level + 1)
  | .obj members, h, level =>
    returns_obj (distinct_members h).1 fun m hm =>
      returns l m.2 ((distinct_members h).2 m hm) (level + 1)
termination_by j => sizeOf j
decreasing_by
  · have := List.sizeOf_lt_of_mem hj
    simp only [Json.arr.sizeOf_spec]
    omega
  · have := List.sizeOf_lt_of_mem hm
    obtain ⟨name, value⟩ := m
    simp only [Json.obj.sizeOf_spec, Prod.mk.sizeOf_spec] at this ⊢
    omega

theorem readWhole_write (l : Layout) {j : Json} (h : j.Distinct) :
    readWhole (write l j) = .ok (reread j) := by
  have hread := returns l j h 0 (2 * (write l j).length + 1) [] delimited_nil
    (by rw [write]; omega)
  have hskip := skipSpace_value l 0 j []
  rw [List.append_nil, ← write] at hread hskip
  rw [readWhole, hskip, hread]
  rfl

theorem readDecoded_write_reread (l : Layout) {j : Json} (h : j.Distinct) :
    readDecoded (write l j) = .ok (reread j) := by
  rw [readDecoded, readWhole_write l h]
  rfl

/-- A written value is read as that value, but for its numbers. -/
theorem read_write_reread (l : Layout) {j : Json} (h : j.Distinct) :
    read (write l j) = .ok (reread j) := by
  have hdecoded := readDecoded_write_reread l h
  obtain ⟨c, tail, ht, hc⟩ := writeValue_opens l 0 j
  rw [← write] at ht
  have hmark : c.toNat ≠ 0xFEFF := by
    simp only [opensValue, Bool.and_eq_true, decide_eq_true_eq] at hc
    omega
  rw [ht] at hdecoded ⊢
  simp only [read, if_neg hmark, hdecoded]

theorem readDecoded_write (l : Layout) {j : Json} (h : j.Sound) :
    readDecoded (write l j) = .ok j := by
  rw [readDecoded_write_reread l h.distinct, reread_of_sound h]

/-- A sound value is read back from its text. -/
theorem read_write (l : Layout) {j : Json} (h : j.Sound) : read (write l j) = .ok j := by
  rw [read_write_reread l h.distinct, reread_of_sound h]

end FormulaOcr.Json
