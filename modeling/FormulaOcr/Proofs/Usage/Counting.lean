import Mathlib.Data.List.DropRight
import FormulaOcr.Proofs.Usage.File
import FormulaOcr.Session

/-! Runs of the counters. The counters of a day say how often a model was recognised since the day
began for the last time, whatever the file held at first and however the date moved. -/

namespace FormulaOcr

/-- The models that were counted in the longest stretch at the end which lies on one day. Marks are
days with the models counted then. -/
def Usage.latest (day : String) (marks : List (String × String)) : List String :=
  (marks.rtakeWhile (·.1 = day)).map (·.2)

/-- What a sequence of recognitions makes of the counters. -/
theorem Usage.on_foldl (u : Usage) (day id : String) (marks : List (String × String)) :
    (marks.foldl (fun u mark => u.increment mark.1 mark.2) u).on day id =
      (latest day marks).count id + if ∀ mark ∈ marks, mark.1 = day then u.on day id else 0 := by
  induction marks using List.reverseRecOn with
  | nil => simp [latest]
  | append_singleton marks mark ih =>
    obtain ⟨date, model⟩ := mark
    rw [List.foldl_append, List.foldl_cons, List.foldl_nil, Usage.on_increment]
    by_cases hday : date = day
    · subst hday
      have hlatest : latest date (marks ++ [(date, model)]) = latest date marks ++ [model] := by
        rw [latest, List.rtakeWhile_concat_pos _ _ _ (by simp), List.map_append]
        rfl
      have hall : (∀ mark ∈ marks ++ [(date, model)], mark.1 = date) ↔
          ∀ mark ∈ marks, mark.1 = date := by
        simp only [List.forall_mem_append, List.forall_mem_singleton, and_true]
      simp only [if_true, ih, hlatest, List.count_append, List.count_singleton, beq_iff_eq, hall]
      omega
    · have hlatest : latest day (marks ++ [(date, model)]) = [] := by
        rw [latest, List.rtakeWhile_concat_neg _ _ _ (by simpa using hday), List.map_nil]
      have hall : ¬ ∀ mark ∈ marks ++ [(date, model)], mark.1 = day :=
        fun h => hday (h (date, model) (by simp))
      rw [if_neg hday, if_neg hall, hlatest]
      rfl

namespace Session

open FormulaOcr.Action

/-- Events that concern the counters and the date alone. -/
def Event.isCounting : Event → Bool
  | .clock _ | .usage _ => true
  | _ => false

/-- The recognitions that a run counts, each with its day; the run begins on the given one. -/
def marks : String → List Event → List (String × String)
  | _, [] => []
  | _, .clock day :: events => marks day events
  | today, .usage (.increment id) :: events => (today, id) :: marks today events
  | today, _ :: events => marks today events

/-- The count of a model on a day, as the counters give it. -/
def asked (w : World) (day id : String) : Except Fault ℕ :=
  (exec (usageToday id) { w with today := day }).1

variable {w : World} {p : Path}

theorem asked_eq (hopen : w.counterPath = some p) (day id : String) :
    asked w day id = .ok ((Usage.inFile w.disk p).on day id) := by
  have h : ({ w with today := day } : World).counterPath = some p := hopen
  rw [asked, exec_usageToday h]

theorem exec_usageByModel (hopen : w.counterPath = some p) (ids : List String) :
    ∃ counts, exec (usageByModel ids) w = (.ok counts, w) := by
  unfold usageByModel
  generalize ([] : Dictionary ℕ) = counts
  induction ids generalizing counts with
  | nil => exact ⟨counts, rfl⟩
  | cons id ids ih =>
    rw [List.foldlM_cons]
    obtain ⟨last, hlast⟩ := ih (Dictionary.assign counts id ((Usage.inFile w.disk p).on w.today id))
    refine ⟨last, ?_⟩
    rw [exec_bind, exec_bind_ok (exec_usageToday hopen id)]
    exact hlast

/-- Asking the counters changes nothing. -/
theorem runUsage_read (hopen : w.counterPath = some p) {q : UsageQuery}
    (hq : ∀ id, q ≠ .increment id) : ∃ answer, exec (runUsage q) w = (.ok answer, w) := by
  cases q with
  | increment id => exact absurd rfl (hq id)
  | today id =>
    refine ⟨.value (.int ((Usage.inFile w.disk p).on w.today id)), ?_⟩
    rw [runUsage, exec_bind_ok (exec_usageToday hopen id)]
    rfl
  | byModel ids =>
    obtain ⟨counts, hcounts⟩ := exec_usageByModel hopen ids
    refine ⟨.counts counts, ?_⟩
    have hdiscard : exec (discard counterPath) w = (.ok PUnit.unit, w) := by
      change exec (counterPath >>= fun _ => pure PUnit.unit) w = _
      rw [exec_bind_ok (exec_counterPath hopen)]
      rfl
    rw [runUsage, exec_bind_ok hdiscard, exec_bind_ok hcounts]
    rfl
  | load =>
    refine ⟨.usage (Usage.inFile w.disk p), ?_⟩
    rw [runUsage, exec_bind_ok (exec_loadUsage hopen)]
    rfl

/-- One event of a run that comes to an answer: what it does to the file and to the date. -/
theorem run_counting (hopen : w.counterPath = some p) {e : Event} (he : e.isCounting = true)
    {answer : Answer} {w' : World} (hrun : exec (run e) w = (.ok answer, w')) :
    w'.counterPath = some p ∧ ∀ events,
      (marks w'.today events).foldl (fun u mark => u.increment mark.1 mark.2)
          (Usage.inFile w'.disk p) =
        (marks w.today (e :: events)).foldl (fun u mark => u.increment mark.1 mark.2)
          (Usage.inFile w.disk p) := by
  cases e with
  | clock day =>
    obtain rfl : { w with today := day } = w' := (Prod.mk.inj hrun).2
    exact ⟨hopen, fun events => rfl⟩
  | usage q =>
    by_cases hq : ∃ id, q = .increment id
    · obtain ⟨id, rfl⟩ := hq
      rw [run, runUsage] at hrun
      obtain ⟨_, v, hcount, hpure⟩ := exec_bind_eq_ok hrun
      obtain ⟨d, rfl, hfile⟩ := countRecognition_ok hopen hcount
      obtain rfl : { w with disk := d } = w' := (Prod.mk.inj hpure).2
      refine ⟨hopen, fun events => ?_⟩
      rw [marks, List.foldl_cons]
      dsimp only
      rw [hfile]
    · have hread : ∀ id, q ≠ .increment id := fun id h => hq ⟨id, h⟩
      obtain ⟨answer', hanswer⟩ := runUsage_read hopen hread
      rw [run, hanswer] at hrun
      obtain rfl : w = w' := (Prod.mk.inj hrun).2
      refine ⟨hopen, fun events => ?_⟩
      cases q with
      | increment id => exact absurd rfl (hread id)
      | _ => rfl
  | _ => simp [Event.isCounting] at he

/-- A run leaves in the file what its recognitions make of the counters there, one by one. -/
theorem inFile_run (hopen : w.counterPath = some p) {events : List Event}
    (hevents : ∀ e ∈ events, e.isCounting = true) {answers : List Answer} {w' : World}
    (hrun : exec (events.mapM run) w = (.ok answers, w')) :
    w'.counterPath = some p ∧ Usage.inFile w'.disk p =
      (marks w.today events).foldl (fun u mark => u.increment mark.1 mark.2)
        (Usage.inFile w.disk p) := by
  induction events generalizing w answers with
  | nil =>
    obtain rfl : w = w' := (Prod.mk.inj hrun).2
    exact ⟨hopen, rfl⟩
  | cons e events ih =>
    rw [List.mapM_cons] at hrun
    obtain ⟨first, v, hfirst, hrest⟩ := exec_bind_eq_ok hrun
    obtain ⟨others, v', hothers, hpure⟩ := exec_bind_eq_ok hrest
    obtain rfl : v' = w' := (Prod.mk.inj hpure).2
    obtain ⟨hopen', hstep⟩ := run_counting hopen (hevents e (by simp)) hfirst
    obtain ⟨hlast, hfile⟩ := ih hopen' (fun e he => hevents e (List.mem_cons_of_mem _ he)) hothers
    exact ⟨hlast, hfile.trans (hstep events)⟩

/-- After a run whose recognitions were all written, the count of a model on a day is the number of
its recognitions in the longest stretch at the end that lies on this day, and if the whole run lies
on it, those that were counted before. Questions in between change nothing. -/
theorem count_after_run (hopen : w.counterPath = some p) {events : List Event}
    (hevents : ∀ e ∈ events, e.isCounting = true) {answers : List Answer} {w' : World}
    (hrun : exec (events.mapM run) w = (.ok answers, w')) (day id : String) :
    (∃ before after, asked w day id = .ok before ∧ asked w' day id = .ok after ∧
      after = (Usage.latest day (marks w.today events)).count id +
        if ∀ mark ∈ marks w.today events, mark.1 = day then before else 0) ∧
    ∀ v q, v.counterPath = some p → (∀ id, q ≠ .increment id) →
      ∃ answer, exec (run (.usage q)) v = (.ok answer, v) := by
  obtain ⟨hopen', hfile⟩ := inFile_run hopen hevents hrun
  refine ⟨⟨_, _, asked_eq hopen day id, asked_eq hopen' day id, ?_⟩, ?_⟩
  · rw [hfile, Usage.on_foldl]
  · exact fun v q hv hq => runUsage_read hv hq

/-- Counters that were chosen, with three recognitions of a day in their file. -/
def counted : World :=
  { configuration := ⟨[], []⟩, today := "2026-03-01", network := [], browser := true, calls := []
    opened := [], store := none, counterPath := some ⟨"/", ["data", "usage.json"]⟩
    translators := []
    disk := ⟨[(["data"], .directory), (["data", "usage.json"], .file (Encoding.Utf8.encode
      (Usage.fileText ⟨"2026-03-01", [("latex_ocr", 3)]⟩)))]⟩ }

/-- Two recognitions on the next day, and one more on the day before. -/
def backAndForth : List Event :=
  [.clock "2026-03-02", .usage (.increment "latex_ocr"), .usage (.increment "latex_ocr"),
   .clock "2026-03-01", .usage (.increment "latex_ocr")]

theorem count_after_backAndForth :
    ∃ answers w', exec (backAndForth.mapM run) counted = (.ok answers, w') ∧
      asked w' "2026-03-01" "latex_ocr" = .ok 1 := by
  obtain ⟨answers, w', hrun⟩ := exec_eq_ok (a := backAndForth.mapM run) (w := counted)
    (by decide +kernel)
  obtain ⟨⟨before, after, -, hafter, hcount⟩, -⟩ :=
    count_after_run rfl (by decide) hrun "2026-03-01" "latex_ocr"
  refine ⟨answers, w', hrun, ?_⟩
  rw [hafter, hcount]
  rfl

end Session

end FormulaOcr
