import FormulaOcr.Proofs.Action
import FormulaOcr.Proofs.Json.Layout

/-! The file of the counters. Whatever it held, counters that are written to it are read back, and
a recognition that could be counted is counted once. -/

namespace FormulaOcr

namespace Json

theorem inBytes_distinct {b : Bytes} {j : Json} (h : inBytes b = some j) : j.Distinct := by
  unfold inBytes at h
  split at h
  · exact read_distinct (Action.eq_ok_of_toOption h)
  · exact nomatch h

/-- The bytes of a written value hold it, but for its numbers. -/
theorem inBytes_written (l : Layout) {j : Json} (h : j.Distinct) :
    inBytes (Encoding.Utf8.encode (write l j)) = some (reread j) := by
  unfold inBytes
  rw [Encoding.Utf8.decode_encode]
  dsimp only
  rw [withLineFeeds_write, read_write_reread l h]
  rfl

end Json

/-- A file that holds the text of a value holds this value. -/
theorem Action.contentOf_written {d : Disk} {p : Path} {l : Json.Layout} {j : Json} (hj : j.Sound)
    (h : d.read p = .ok (Encoding.Utf8.encode (Json.write l j))) : contentOf d p = some j := by
  rw [contentOf_eq, h]
  change Json.inBytes (Encoding.Utf8.encode (Json.write l j)) = some j
  rw [Json.inBytes_written l hj.distinct, Json.reread_of_sound hj]

namespace Usage

theorem count?_int (n : ℕ) : count? (.int n) = some n := by
  simp [count?]

theorem count?_eq_some {value : Json} {n : ℕ} : count? value = some n ↔ value = .int n := by
  constructor
  · intro h
    unfold count? at h
    split at h
    · split_ifs at h with hn
      rw [← Option.some.inj h, Int.toNat_of_nonneg hn]
    · exact nomatch h
  · rintro rfl
    exact count?_int n

theorem filterMap_counts (counts : Dictionary ℕ) :
    (counts.map fun entry => (entry.1, Json.int entry.2)).filterMap
      (fun entry => (count? entry.2).map (entry.1, ·)) = counts := by
  simp only [List.filterMap_map, Function.comp_def, count?_int, Option.map_some]
  exact List.filterMap_some

/-- Counters are told from their JSON form. -/
theorem ofJson_toJson (u : Usage) : ofJson u.toJson = u := by
  obtain ⟨date, counts⟩ := u
  have h := filterMap_counts counts
  simp only [toJson, ofJson, Json.member, Json.member?, Json.members?, Json.text?,
    Dictionary.find?_cons, if_true, Option.getD_some, if_neg (by decide : ¬ "date" = "models"), h]

/-! What is taken from a file, whatever it holds. -/

section OfJson

variable {j : Json} {id : String} {n : ℕ}

/-- What a value has in the place of the counts. -/
def entries (j : Json) : Dictionary Json :=
  (j.member "models").members?.getD []

theorem counts_ofJson (j : Json) :
    (ofJson j).counts = (entries j).filterMap fun entry => (count? entry.2).map (entry.1, ·) := by
  cases j <;> rfl

/-- A count is taken where its number stands, and nowhere else. -/
theorem mem_counts_ofJson : (id, n) ∈ (ofJson j).counts ↔ (id, Json.int n) ∈ entries j := by
  rw [counts_ofJson, List.mem_filterMap]
  constructor
  · rintro ⟨⟨key, value⟩, hmem, hcount⟩
    obtain ⟨m, hm, heq⟩ := Option.map_eq_some_iff.1 hcount
    obtain ⟨rfl, rfl⟩ := Prod.mk.inj heq
    exact count?_eq_some.1 hm ▸ hmem
  · intro hmem
    exact ⟨_, hmem, by rw [count?_int, Option.map_some]⟩

/-- The counts stand in the order of their entries. -/
theorem sublist_counts_ofJson (j : Json) :
    ((ofJson j).counts.map fun count => (count.1, Json.int count.2)).Sublist (entries j) := by
  have hkept (entry : String × Json) :
      ((count? entry.2).map (entry.1, ·)).map (fun count => (count.1, Json.int count.2)) =
        Option.guard (fun entry : String × Json => (count? entry.2).isSome) entry := by
    obtain ⟨key, value⟩ := entry
    cases h : count? value with
    | none => simp [Option.guard, h]
    | some n => simp [Option.guard, count?_eq_some.1 h, count?_int]
  rw [counts_ofJson, List.map_filterMap, funext hkept, List.filterMap_eq_filter]
  exact List.filter_sublist

/-- Counters that are read name no model twice. -/
theorem nodup_ofJson (h : j.Distinct) : (ofJson j).counts.keys.Nodup := by
  have hentries : (entries j).keys.Nodup := by
    have hmodels : (j.member "models").Distinct := Json.Everywhere.member h "models"
    unfold entries
    generalize j.member "models" = models at hmodels ⊢
    cases models with
    | obj inner =>
      rw [Json.Distinct, Json.Everywhere] at hmodels
      exact hmodels.1
    | _ => simp [Json.members?]
  have hkeys := (sublist_counts_ofJson j).map Prod.fst
  rw [List.map_map] at hkeys
  exact hentries.sublist hkeys

end OfJson

theorem nodup_increment {u : Usage} (h : u.counts.keys.Nodup) (day id : String) :
    (u.increment day id).counts.keys.Nodup := by
  unfold increment
  dsimp only
  split_ifs
  · exact Dictionary.nodup_keys_assign h id _
  · exact Dictionary.nodup_keys_assign (by simp) id _

/-- One recognition more on a day, and no counts of other days. -/
theorem on_increment (u : Usage) (day id other model : String) :
    (u.increment day id).on other model =
      if day = other then u.on day model + if id = model then 1 else 0 else 0 := by
  have hassign (counts : Dictionary ℕ) :
      ((counts.assign id ((counts.find? id).getD 0 + 1)).find? model).getD 0 =
        (counts.find? model).getD 0 + if id = model then 1 else 0 := by
    by_cases hid : id = model
    · subst hid
      rw [Dictionary.find?_assign_self, if_pos rfl, Option.getD_some]
    · rw [Dictionary.find?_assign_of_ne _ _ hid, if_neg hid, Nat.add_zero]
  unfold increment on
  dsimp only
  by_cases hdate : u.date = day
  · rw [if_pos hdate, hassign, if_pos hdate, hdate]
  · rw [if_neg hdate, hassign, if_neg hdate]
    rfl

theorem sound_toJson {u : Usage} (h : u.counts.keys.Nodup) : u.toJson.Sound := by
  have hcounts : ∀ members : Dictionary ℕ, Json.EverywhereMembers Json.ReadsBack List.Nodup
      (members.map fun entry => (entry.1, Json.int entry.2)) := by
    intro members
    rw [Json.everywhereMembers_iff]
    intro member hmember
    obtain ⟨entry, -, rfl⟩ := List.mem_map.1 hmember
    simp [Json.Everywhere]
  have hkeys := Dictionary.keys_map (fun n : ℕ => Json.int n) u.counts
  simp only [toJson, Json.Sound, Json.Everywhere, Json.EverywhereMembers, hcounts, and_true,
    true_and]
  refine ⟨?_, hkeys ▸ h⟩
  simp [Dictionary.keys]

/-- The counters that a file holds. -/
def inFile (d : Disk) (p : Path) : Usage :=
  ((Action.contentOf d p).map ofJson).getD {}

theorem nodup_inFile (d : Disk) (p : Path) : (inFile d p).counts.keys.Nodup := by
  unfold inFile
  cases h : Action.contentOf d p with
  | none => simp
  | some j =>
    unfold Action.contentOf at h
    split at h
    · next text _ =>
      cases hread : Json.read text with
      | error e => simp [hread, Except.toOption] at h
      | ok j' =>
        simp only [hread, Except.toOption, Option.some.injEq] at h
        exact nodup_ofJson (h ▸ Json.read_distinct hread)
    · simp at h

/-- A file that holds the text of some counters holds these counters. -/
theorem inFile_of_read {d : Disk} {p : Path} {u : Usage} (hu : u.counts.keys.Nodup)
    (h : d.read p = .ok (Encoding.Utf8.encode u.fileText)) : inFile d p = u := by
  rw [inFile, Action.contentOf_written (sound_toJson hu) h, Option.map_some, Option.getD_some,
    ofJson_toJson]

end Usage

namespace Action

variable {w : World} {p : Path}

theorem exec_counterPath (hp : w.counterPath = some p) : exec counterPath w = (.ok p, w) := by
  rw [counterPath, exec_bind, exec_get]
  dsimp only
  rw [hp]
  rfl

theorem exec_loadUsage (hp : w.counterPath = some p) :
    exec loadUsage w = (.ok (Usage.inFile w.disk p), w) := by
  rw [loadUsage, exec_bind_ok (exec_counterPath hp), exec_bind, exec_readFile]
  rfl

theorem exec_usageToday (hp : w.counterPath = some p) (id : String) :
    exec (usageToday id) w = (.ok ((Usage.inFile w.disk p).on w.today id), w) := by
  rw [usageToday, exec_bind_ok (exec_loadUsage hp)]
  rfl

/-- Counting a recognition writes the counters with one more of its model, and nothing else. -/
theorem exec_countRecognition (hp : w.counterPath = some p) (id : String) :
    exec (countRecognition id) w =
      exec (writeFile p ((Usage.inFile w.disk p).increment w.today id).fileText) w := by
  rw [countRecognition, exec_bind_ok (exec_counterPath hp), exec_bind_ok (exec_loadUsage hp),
    exec_bind_ok (exec_get w)]

theorem countRecognition_ok {w' : World} (hp : w.counterPath = some p) {id : String}
    (h : exec (countRecognition id) w = (.ok (), w')) :
    ∃ d, w' = { w with disk := d } ∧
      Usage.inFile d p = (Usage.inFile w.disk p).increment w.today id := by
  rw [exec_countRecognition hp] at h
  obtain ⟨d, rfl, hread⟩ := writeFile_ok h
  exact ⟨d, rfl, Usage.inFile_of_read (Usage.nodup_increment (Usage.nodup_inFile _ _) _ _) hread⟩

end Action

end FormulaOcr
