import Mathlib.Data.List.TakeWhile
import FormulaOcr.Proofs.Action
import FormulaOcr.Proofs.Dictionary

/-! Putting messages into words. A template whose fields are plain names can be filled in whenever
the values go by these names, and the tables that come with the service have no other templates. -/

namespace FormulaOcr

namespace Localization

/-- A field that is a name alone, and one of the given ones. -/
def plainField (names : List String) (f : Field) : Bool :=
  f.conversion.isNone && f.style.isEmpty && names.contains (.ofList f.reference) &&
    f.reference.all (fun c => c != '.' && c != '[') && !f.reference.isEmpty &&
    (match index? f.reference with | .ok none => true | _ => false)

/-- A template of characters and plain fields. -/
def plainTemplate (names : List String) (template : List Char) : Bool :=
  (pieces .outside template).all fun
    | .literal _ => true
    | .field f => plainField names f
    | .fault _ => false

/-- What a piece of a template is filled in with: a field, with the value that goes by its
reference. -/
def Piece.shown (values : Dictionary Json) : Piece → List Char
  | .literal c => [c]
  | .field f => ((values.find? (.ofList f.reference)).getD .null).display.toList
  | .fault _ => []

theorem resolve_plain {names : List String} {values : Dictionary Json}
    (hnames : values.keys = names) {f : Field} (hf : plainField names f = true) :
    ∃ value, values.find? (.ofList f.reference) = some value ∧
      resolve values f.reference = .ok (.value value) := by
  simp only [plainField, Bool.and_eq_true, Bool.not_eq_true', List.contains_iff_mem] at hf
  obtain ⟨⟨⟨⟨-, hmem⟩, hall⟩, hne⟩, hindex⟩ := hf
  have hall' : ∀ c ∈ f.reference, (c != '.' && c != '[') = true := List.all_eq_true.1 hall
  have htake : f.reference.takeWhile (fun c => c != '.' && c != '[') = f.reference :=
    List.takeWhile_eq_self_iff.2 hall'
  have hdrop : f.reference.dropWhile (fun c => c != '.' && c != '[') = [] :=
    List.dropWhile_eq_nil_iff.2 hall'
  rw [← hnames, Dictionary.mem_keys_iff] at hmem
  obtain ⟨value, hvalue⟩ := Option.isSome_iff_exists.1 hmem
  refine ⟨value, hvalue, ?_⟩
  unfold resolve
  simp only [htake, hdrop]
  cases hi : index? f.reference with
  | error e => simp [hi] at hindex
  | ok index =>
    cases index with
    | some n => simp [hi] at hindex
    | none => simp [bind, Except.bind, hne, hvalue, steps, Subject.follow]

/-- Values that go by the names in a plain template fill it in, piece by piece. -/
theorem fill_plain {names : List String} {values : Dictionary Json} (hnames : values.keys = names)
    {template : List Char} (ht : plainTemplate names template = true) :
    fill values template = .ok ((pieces .outside template).flatMap (Piece.shown values)) := by
  have hpieces (expand : List Char → Except TemplateFault (List Char)) (ps : List Piece)
      (h : ∀ piece ∈ ps, (match piece with
        | .literal _ => true
        | .field f => plainField names f
        | .fault _ => false) = true) :
      fillPieces values expand ps = .ok (ps.flatMap (Piece.shown values)) := by
    induction ps with
    | nil => rfl
    | cons piece ps ih =>
      have hrest := ih fun p hp => h p (List.mem_cons_of_mem _ hp)
      have hpiece := h piece (by simp)
      cases piece with
      | literal c =>
        rw [fillPieces, hrest]
        rfl
      | field f =>
        obtain ⟨value, hvalue, hresolve⟩ := resolve_plain hnames hpiece
        simp only [plainField, Bool.and_eq_true] at hpiece
        obtain ⟨⟨⟨⟨⟨hconversion, hstyle⟩, -⟩, -⟩, -⟩, -⟩ := hpiece
        rw [Option.isNone_iff_eq_none] at hconversion
        rw [List.isEmpty_iff] at hstyle
        rw [fillPieces, hrest]
        simp [fillField, hresolve, hvalue, hconversion, hstyle, convert, Piece.shown,
          Subject.styled, Subject.display, bind, Except.bind, Except.mapError, pure, Except.pure]
      | fault f => simp at hpiece
  exact hpieces _ _ (List.all_eq_true.1 ht)

/-- The message under a key can be put into words for all values with these names. -/
def Translator.Words (t : Translator) (key : String) (names : List String) : Prop :=
  ∀ values : Dictionary Json, values.keys = names → ∃ j, t.translate key values = .ok j

/-- A plain template puts the values that it mentions into words as they are shown. -/
theorem translate_plain {t : Translator} {key template : String} {values : Dictionary Json}
    (hfound : t.messages.find? key = some (.str template))
    (hplain : plainTemplate values.keys template.toList = true)
    (hown : values.keys.find? ["self", "key"].contains = none) (hvalues : values ≠ []) :
    t.translate key values = .ok (.str (.ofList
      ((pieces .outside template.toList).flatMap (Piece.shown values)))) := by
  unfold Translator.translate
  rw [checkNames, hown]
  simp only [bind, Except.bind, hfound, Option.getD_some, List.isEmpty_iff, hvalues, if_false]
  rw [fill_plain rfl hplain]
  rfl

/-- A message with a plain template can be put into words. -/
theorem words_of_plain {t : Translator} {key template : String} {names : List String}
    (hfound : t.messages.find? key = some (.str template))
    (hplain : plainTemplate names template.toList = true)
    (hown : names.find? ["self", "key"].contains = none) : t.Words key names := by
  rintro values rfl
  rcases eq_or_ne values [] with rfl | hvalues
  · exact ⟨_, rfl⟩
  · exact ⟨_, translate_plain hfound hplain hown hvalues⟩

/-- A message without values is put into words whatever the table says. -/
theorem words_nil (t : Translator) (key : String) : t.Words key [] := by
  intro values hnames
  obtain rfl : values = [] := by simpa [Dictionary.keys] using hnames
  exact ⟨_, rfl⟩

end Localization

open FormulaOcr.Localization

/-- The translator that a process speaks with: the one that it keeps for the language, else the one
that it loads. -/
def World.translator (w : World) : Except Crash Translator :=
  match w.translators.lookup w.configuration.language with
  | some t => .ok t
  | none => Translator.load w.disk directory w.configuration.language "en" .null

/-- What the network holds ready does not change the words. -/
theorem World.translator_network (w : World) (network : List Outcome) :
    World.translator { w with network := network } = w.translator := rfl

/-- A world whose process has spoken. -/
def World.spoken (w : World) : World :=
  match w.translators.lookup w.configuration.language, w.translator with
  | none, .ok t => { w with translators := w.translators ++ [(w.configuration.language, t)] }
  | _, _ => w

theorem World.spoken_eq (w : World) : ∃ kept, w.spoken = { w with translators := kept } := by
  unfold World.spoken
  split
  · exact ⟨_, rfl⟩
  · exact ⟨w.translators, rfl⟩

theorem World.network_spoken (w : World) : w.spoken.network = w.network := by
  obtain ⟨kept, hspoken⟩ := World.spoken_eq w
  rw [hspoken]

namespace Action

variable {w : World} {t : Translator}

theorem exec_translator (w : World) :
    exec translator w = (w.translator.mapError .crash, w.spoken) := by
  unfold translator World.spoken
  rw [exec_bind, exec_get]
  dsimp only
  cases hlookup : w.translators.lookup w.configuration.language with
  | some t =>
    simp only [World.translator, hlookup]
    rfl
  | none =>
    dsimp only
    rw [exec_bind, exec_ofCrash]
    simp only [World.translator, hlookup]
    cases Translator.load w.disk directory w.configuration.language "en" .null with
    | ok t => rfl
    | error c => rfl

theorem lookup_append_self (l : List (String × Translator)) {key : String}
    (h : l.lookup key = none) (t : Translator) : (l ++ [(key, t)]).lookup key = some t := by
  rw [List.lookup_append, h]
  simp

theorem translator_spoken (w : World) : w.spoken.translator = w.translator := by
  unfold World.spoken
  split
  · next t hlookup ht =>
    rw [ht, World.translator]
    dsimp only
    rw [lookup_append_self _ hlookup]
  · rfl

/-- A message that the translator words is worded. -/
theorem exec_wording (ht : w.translator = .ok t) {key : String} {values : Dictionary Json}
    {j : Json} (hown : values.keys.find? ["key"].contains = none)
    (hj : t.translate key values = .ok j) :
    exec (wording key values) w = (.ok j.display, w.spoken) := by
  have htranslate : exec (translate key values) w = (.ok j, w.spoken) := by
    rw [translate, checkNames, hown, exec_bind, exec_ofCrash]
    dsimp only [Except.mapError]
    rw [exec_bind, exec_translator, ht]
    dsimp only [Except.mapError]
    rw [exec_ofCrash, hj]
    rfl
  rw [wording, exec_bind_ok htranslate]
  rfl

/-- A failure that is put into the words of a translator. -/
def worded (t : Translator) (c : Complaint) : Failure :=
  ⟨c, ((t.translate c.key c.values).toOption.getD .null).display⟩

/-- Names that a failure leaves free are left free by a wording. -/
theorem key_own {names : List String} (h : names.find? ["self", "key"].contains = none) :
    names.find? ["key"].contains = none := by
  rw [List.find?_eq_none] at h ⊢
  intro name hname hcontains
  refine h name hname ?_
  simp only [List.contains_cons, List.contains_nil, Bool.or_false, beq_iff_eq] at hcontains ⊢
  simp [hcontains]

/-- A complaint that can be translated ends an action with its failure. -/
theorem exec_complain_translated {α : Type} (ht : w.translator = .ok t) {c : Complaint} {j : Json}
    (hown : c.values.keys.find? ["self", "key"].contains = none)
    (hj : t.translate c.key c.values = .ok j) :
    exec (complain c : Action α) w = (.error (.failure ⟨c, j.display⟩), w.spoken) := by
  rw [complain, checkNames, hown, exec_bind, exec_ofCrash]
  dsimp only [Except.mapError]
  rw [exec_bind_ok (exec_wording ht (key_own hown) hj)]
  rfl

/-- A complaint ends an action with the failure that it words. -/
theorem exec_complain {α : Type} (ht : w.translator = .ok t) {c : Complaint}
    (hown : c.values.keys.find? ["self", "key"].contains = none)
    (hwords : t.Words c.key c.values.keys) :
    exec (complain c : Action α) w = (.error (.failure (worded t c)), w.spoken) := by
  obtain ⟨j, hj⟩ := hwords c.values rfl
  rw [exec_complain_translated ht hown hj, worded, hj]
  rfl

/-- A complaint ends an action whatever was to follow. -/
theorem exec_complain_bind {α β : Type} (c : Complaint) (f : α → Action β) (w : World) :
    exec (complain c >>= f) w = exec (complain c : Action β) w := by
  rw [exec_bind, complain, complain, exec_bind, exec_bind]
  cases exec (ofCrash (checkNames "RecognitionError.__init__" ["self", "key"] c.values)) w with
  | mk result v =>
    cases result with
    | error e => rfl
    | ok _ =>
      dsimp only
      rw [exec_bind, exec_bind]
      cases exec (wording c.key c.values) v with
      | mk message u => cases message <;> rfl

end Action

/-- A process has words for a complaint. -/
def World.Voices (w : World) (c : Complaint) : Prop :=
  ∃ t j, w.translator = .ok t ∧ t.translate c.key c.values = .ok j

namespace Action

variable {α : Type} {w : World} {c : Complaint}

/-- No value of a translated message goes by a name that the translator uses. -/
theorem own_of_translate {t : Translator} {key : String} {values : Dictionary Json} {j : Json}
    (h : t.translate key values = .ok j) : values.keys.find? ["self", "key"].contains = none := by
  cases hown : values.keys.find? ["self", "key"].contains with
  | none => rfl
  | some name =>
    rw [Translator.translate, checkNames, hown] at h
    exact nomatch h

/-- A complaint that there are words for ends an action with its failure. -/
theorem exec_complain_voiced (h : w.Voices c) :
    ∃ message, exec (complain c : Action α) w = (.error (.failure ⟨c, message⟩), w.spoken) := by
  obtain ⟨t, j, ht, hj⟩ := h
  exact ⟨_, exec_complain_translated ht (own_of_translate hj) hj⟩

/-- A message is worded by the translator, or there is a crash. -/
theorem wording_ends (key : String) (values : Dictionary Json) (w : World) :
    (∃ e, (exec (wording key values) w).1 = .error (.crash e)) ∨
      ∃ t j, w.translator = .ok t ∧ t.translate key values = .ok j ∧
        (exec (wording key values) w).1 = .ok j.display := by
  unfold wording translate
  rw [exec_bind, exec_bind, exec_ofCrash]
  cases checkNames "t" ["key"] values with
  | error e => exact .inl ⟨e, rfl⟩
  | ok _ =>
    dsimp only [Except.mapError]
    rw [exec_bind, exec_translator]
    cases w.translator with
    | error e => exact .inl ⟨e, rfl⟩
    | ok t =>
      dsimp only [Except.mapError]
      rw [exec_ofCrash]
      cases hj : t.translate key values with
      | error e => exact .inl ⟨e, rfl⟩
      | ok j => exact .inr ⟨t, j, rfl, hj, rfl⟩

/-- A complaint ends in its failure, in the words that there are for it, or in a crash. -/
theorem complain_ends (c : Complaint) (w : World) :
    (∃ e, (exec (complain c : Action α) w).1 = .error (.crash e)) ∨
      ∃ t, w.translator = .ok t ∧ w.Voices c ∧
        (exec (complain c : Action α) w).1 = .error (.failure (worded t c)) := by
  unfold complain
  rw [exec_bind, exec_ofCrash]
  cases checkNames "RecognitionError.__init__" ["self", "key"] c.values with
  | error e => exact .inl ⟨e, rfl⟩
  | ok _ =>
    dsimp only [Except.mapError]
    rw [exec_bind]
    have hends := wording_ends c.key c.values w
    generalize exec (wording c.key c.values) w = done at hends ⊢
    obtain ⟨result, v⟩ := done
    rcases hends with ⟨e, rfl⟩ | ⟨t, j, ht, hj, rfl⟩
    · exact .inl ⟨e, rfl⟩
    · refine .inr ⟨t, ht, ⟨t, j, ht, hj⟩, ?_⟩
      rw [worded, hj]
      rfl

end Action

end FormulaOcr
