import Mathlib.Tactic
import FormulaOcr.Disk.Tree

/-! What the operations on a disk do to its nodes. Directories stay where they are, so paths that
led somewhere lead there still; a file that was written is read back; making directories adds
nothing but directories, and only where nothing was. -/

namespace FormulaOcr.Disk

/-- Places that hold a node other than a directory are not the root. -/
theorem at?_nil (d : Disk) : d.at? [] = some .directory := rfl

theorem at?_of_ne_nil (d : Disk) {place : List String} (h : place ≠ []) :
    d.at? place = d.nodes.lookup place := by
  rw [at?, if_neg (by simpa using h)]

theorem lookup_replace (nodes : List (List String × Node)) (place other : List String)
    (node : Node) :
    (nodes.map fun entry => if entry.1 == place then (place, node) else entry).lookup other =
      if other = place then (nodes.lookup place).map fun _ => node else nodes.lookup other := by
  induction nodes with
  | nil => simp
  | cons entry nodes ih =>
    obtain ⟨name, found⟩ := entry
    rw [List.map_cons, List.lookup_cons, List.lookup_cons, List.lookup_cons, ih]
    by_cases hname : name = place
    · subst hname
      by_cases hother : other = name
      · subst hother; simp
      · simp [hother, beq_eq_false_iff_ne.2 hother]
    · by_cases hother : other = place
      · subst hother
        simp [hname, beq_eq_false_iff_ne.2 (Ne.symm hname)]
      · simp [hname, hother]

theorem any_eq_isSome_lookup (nodes : List (List String × Node)) (place : List String) :
    nodes.any (·.1 == place) = (nodes.lookup place).isSome := by
  induction nodes with
  | nil => rfl
  | cons entry nodes ih =>
    obtain ⟨name, found⟩ := entry
    rw [List.any_cons, List.lookup_cons, ih]
    by_cases h : name = place
    · subst h; simp
    · simp [beq_eq_false_iff_ne.2 h, beq_eq_false_iff_ne.2 (Ne.symm h)]

theorem at?_put (d : Disk) {place : List String} (h : place ≠ []) (node : Node)
    (other : List String) :
    (d.put place node).at? other = if other = place then some node else d.at? other := by
  by_cases hother : other = []
  · subst hother
    rw [at?_nil, at?_nil, if_neg (Ne.symm h)]
  · rw [at?_of_ne_nil _ hother, at?_of_ne_nil _ hother, put]
    split_ifs with hany heq heq
    · subst heq
      rw [any_eq_isSome_lookup] at hany
      obtain ⟨found, hfound⟩ := Option.isSome_iff_exists.1 hany
      rw [lookup_replace, if_pos rfl, hfound, Option.map_some]
    · rw [lookup_replace, if_neg heq]
    · subst heq
      rw [any_eq_isSome_lookup, Bool.not_eq_true, Option.isSome_eq_false_iff,
        Option.isNone_iff_eq_none] at hany
      simp [List.lookup_append, hany]
    · simp [List.lookup_append, List.lookup_cons, beq_eq_false_iff_ne.2 heq]

/-! Disks on which no directory is lost. -/

/-- Each directory of the one disk is one of the other. -/
def Keeps (d d' : Disk) : Prop :=
  ∀ place, d.at? place = some .directory → d'.at? place = some .directory

theorem walk_keeps {d d' : Disk} (h : d.Keeps d') {steps place found : List String}
    (hw : d.walk place steps = .ok found) : d'.walk place steps = .ok found := by
  induction steps generalizing place with
  | nil => simpa [walk] using hw
  | cons step steps ih =>
    rw [walk] at hw ⊢
    split at hw
    · next hdir =>
      rw [h place hdir]
      dsimp only
      split_ifs at hw ⊢ with hlong
      · exact ih hw
      · exact ih hw
    · simp at hw
    · simp at hw

/-- A path that leads somewhere leads there still. -/
theorem locate_keeps {d d' : Disk} (h : d.Keeps d') {p : Path} {place : List String}
    (hl : d.locate p = .ok place) : d'.locate p = .ok place := by
  unfold locate at hl ⊢
  split_ifs at hl ⊢ with hlong
  exact walk_keeps h hl

theorem keeps_put {d : Disk} {place : List String} (h : place ≠ [])
    (hp : d.at? place ≠ some .directory) (node : Node) : d.Keeps (d.put place node) := by
  intro other hother
  rw [at?_put d h, if_neg]
  · exact hother
  · rintro rfl
    exact hp hother

theorem isDirectory_iff {d : Disk} {p : Path} :
    d.isDirectory p = true ↔ ∃ place, d.locate p = .ok place ∧ d.at? place = some .directory := by
  rw [isDirectory, decide_eq_true_eq, find?]
  constructor
  · intro h
    cases hl : d.locate p with
    | ok place =>
      rw [hl] at h
      exact ⟨place, rfl, h⟩
    | error refusal =>
      rw [hl] at h
      simp at h
  · rintro ⟨place, hl, hd⟩
    rw [hl]
    exact hd

theorem isDirectory_keeps {d d' : Disk} (h : d.Keeps d') {p : Path}
    (hp : d.isDirectory p = true) : d'.isDirectory p = true := by
  obtain ⟨place, hl, hd⟩ := isDirectory_iff.1 hp
  exact isDirectory_iff.2 ⟨place, locate_keeps h hl, h place hd⟩

/-! Writing and reading. -/

theorem write_eq {d d' : Disk} {p : Path} {content : Bytes} (h : d.write p content = .ok d') :
    ∃ place, d.locate p = .ok place ∧ place ≠ [] ∧ d.at? place ≠ some .directory ∧
      d' = d.put place (.file content) := by
  unfold write at h
  split at h
  · simp at h
  · next place hplace =>
    split at h
    · simp at h
    · next hnode =>
      refine ⟨place, hplace, ?_, hnode, (Except.ok.inj h).symm⟩
      rintro rfl
      exact hnode rfl

theorem keeps_write {d d' : Disk} {p : Path} {content : Bytes} (h : d.write p content = .ok d') :
    d.Keeps d' := by
  obtain ⟨place, -, hne, hnode, rfl⟩ := write_eq h
  exact keeps_put hne hnode _

/-- What was written is read. -/
theorem read_write {d d' : Disk} {p : Path} {content : Bytes} (h : d.write p content = .ok d') :
    d'.read p = .ok content := by
  have hk := keeps_write h
  obtain ⟨place, hplace, hne, -, rfl⟩ := write_eq h
  rw [read, locate_keeps hk hplace]
  dsimp only
  rw [at?_put d hne, if_pos rfl]

theorem put_put (d : Disk) (place : List String) (node : Node) :
    (d.put place node).put place node = d.put place node := by
  by_cases hany : (d.nodes.any (·.1 == place)) = true
  · have hthere : ((d.nodes.map fun entry => if entry.1 == place then (place, node) else entry).any
        (·.1 == place)) = true := by
      rw [List.any_map]
      obtain ⟨entry, hentry, heq⟩ := List.any_eq_true.1 hany
      refine List.any_eq_true.2 ⟨entry, hentry, ?_⟩
      rw [Function.comp_apply, if_pos heq]
      exact beq_self_eq_true place
    rw [put, put, if_pos hany, if_pos hthere, List.map_map]
    refine congrArg Disk.mk (List.map_congr_left fun entry _ => ?_)
    rw [Function.comp_apply]
    split_ifs <;> rfl
  · have hthere : ((d.nodes ++ [(place, node)]).any (·.1 == place)) = true := by simp
    have hrest : (d.nodes.map fun entry => if entry.1 == place then (place, node) else entry) =
        d.nodes := by
      refine (List.map_congr_left fun entry hentry => ?_).trans (List.map_id _)
      exact if_neg fun heq => hany (List.any_eq_true.2 ⟨entry, hentry, heq⟩)
    rw [put, put, if_neg hany, if_pos hthere, List.map_append, hrest]
    simp

/-- To write what was just written changes nothing. -/
theorem write_write {d d' : Disk} {p : Path} {content : Bytes}
    (h : d.write p content = .ok d') : d'.write p content = .ok d' := by
  have hk := keeps_write h
  obtain ⟨place, hplace, hne, -, rfl⟩ := write_eq h
  rw [write, locate_keeps hk hplace]
  dsimp only
  rw [at?_put d hne, if_pos rfl, put_put]

/-- What can be read is a file. -/
theorem hasFile_of_read {d : Disk} {p : Path} {content : Bytes} (h : d.read p = .ok content) :
    d.hasFile p = .ok true := by
  unfold read at h
  unfold hasFile
  split at h
  · simp at h
  · next place hplace =>
    rw [hplace]
    dsimp only
    split at h
    · next found hfound => rw [hfound]
    · simp at h
    · simp at h

/-! Making directories. -/

/-- One disk has what the other has, and perhaps more directories. -/
def Grows (d d' : Disk) : Prop :=
  ∀ place, d'.at? place = d.at? place ∨ d.at? place = none ∧ d'.at? place = some .directory

theorem Grows.refl (d : Disk) : d.Grows d :=
  fun _ => .inl rfl

theorem Grows.trans {d d' d'' : Disk} (h : d.Grows d') (h' : d'.Grows d'') : d.Grows d'' := by
  intro place
  rcases h place with h1 | ⟨h1, h2⟩
  · rw [← h1]
    exact h' place
  · rcases h' place with h3 | ⟨h3, -⟩
    · exact .inr ⟨h1, h3.trans h2⟩
    · rw [h2] at h3
      simp at h3

theorem Grows.keeps {d d' : Disk} (h : d.Grows d') : d.Keeps d' := by
  intro place hp
  rcases h place with h1 | ⟨h1, -⟩
  · rw [h1, hp]
  · rw [hp] at h1
    simp at h1

theorem makeDirectory_eq {d d' : Disk} {p : Path} (h : d.makeDirectory p = .ok d') :
    ∃ place, d.locate p = .ok place ∧ place ≠ [] ∧ d.at? place = none ∧
      d' = d.put place .directory := by
  unfold makeDirectory at h
  split at h
  · simp at h
  · next place hplace =>
    split at h
    · simp at h
    · next hnone =>
      refine ⟨place, hplace, ?_, hnone, (Except.ok.inj h).symm⟩
      rintro rfl
      simp [at?_nil] at hnone

theorem grows_makeDirectory {d d' : Disk} {p : Path} (h : d.makeDirectory p = .ok d') :
    d.Grows d' := by
  obtain ⟨place, -, hne, hnone, rfl⟩ := makeDirectory_eq h
  intro other
  rw [at?_put d hne]
  split_ifs with heq
  · subst heq
    exact .inr ⟨hnone, rfl⟩
  · exact .inl rfl

theorem isDirectory_makeDirectory {d d' : Disk} {p : Path} (h : d.makeDirectory p = .ok d') :
    d'.isDirectory p = true := by
  have hk := (grows_makeDirectory h).keeps
  obtain ⟨place, hplace, hne, -, rfl⟩ := makeDirectory_eq h
  exact isDirectory_iff.2 ⟨place, locate_keeps hk hplace, by rw [at?_put d hne, if_pos rfl]⟩

theorem settle_spec (d : Disk) (p : Path) :
    d.Grows (d.settle p).2 ∧ ((d.settle p).1 = .ok () → (d.settle p).2.isDirectory p = true) := by
  unfold settle
  cases hm : d.makeDirectory p with
  | ok made => exact ⟨grows_makeDirectory hm, fun _ => isDirectory_makeDirectory hm⟩
  | error fault =>
    refine ⟨Grows.refl d, ?_⟩
    dsimp only
    split_ifs with hdir
    · exact fun _ => hdir
    · simp

/-- Making directories adds directories alone, and if it succeeds the path leads to one. -/
theorem makeDirectoriesFrom_spec (root : String) (steps : List String) :
    ∀ d, d.Grows (makeDirectoriesFrom root steps d).2 ∧
      ((makeDirectoriesFrom root steps d).1 = .ok () →
        (makeDirectoriesFrom root steps d).2.isDirectory ⟨root, steps.reverse⟩ = true) := by
  induction steps with
  | nil => exact fun d => settle_spec d ⟨root, []⟩
  | cons step before ih =>
    intro d
    rw [makeDirectoriesFrom]
    split
    · next made hm => exact ⟨grows_makeDirectory hm, fun _ => isDirectory_makeDirectory hm⟩
    · split
      · next d' hfrom =>
        have hgrows := (ih d).1
        rw [hfrom] at hgrows
        obtain ⟨h1, h2⟩ := settle_spec d' ⟨root, (step :: before).reverse⟩
        exact ⟨hgrows.trans h1, h2⟩
      · next fault d' hfrom =>
        have hgrows := (ih d).1
        rw [hfrom] at hgrows
        exact ⟨hgrows, by simp⟩
    · next fault _ _ =>
      refine ⟨Grows.refl d, ?_⟩
      dsimp only
      split_ifs with hdir
      · exact fun _ => hdir
      · simp

theorem grows_makeDirectories (d : Disk) (p : Path) : d.Grows (d.makeDirectories p).2 :=
  (makeDirectoriesFrom_spec p.root p.steps.reverse d).1

theorem isDirectory_makeDirectories {d : Disk} {p : Path} (h : (d.makeDirectories p).1 = .ok ()) :
    (d.makeDirectories p).2.isDirectory p = true := by
  have := (makeDirectoriesFrom_spec p.root p.steps.reverse d).2 h
  rwa [List.reverse_reverse] at this

theorem makeDirectory_of_isDirectory {d : Disk} {p : Path} (h : d.isDirectory p = true) :
    d.makeDirectory p = .error ⟨.alreadyThere, p⟩ := by
  obtain ⟨place, hl, hd⟩ := isDirectory_iff.1 h
  rw [makeDirectory, hl]
  dsimp only
  rw [hd]

/-- A directory that is there is left alone. -/
theorem makeDirectories_of_isDirectory {d : Disk} {p : Path} (h : d.isDirectory p = true) :
    d.makeDirectories p = (.ok (), d) := by
  have hmake := makeDirectory_of_isDirectory h
  obtain ⟨root, steps⟩ := p
  rw [makeDirectories]
  dsimp only
  cases hs : steps.reverse with
  | nil =>
    obtain rfl : steps = [] := by simpa using hs
    rw [makeDirectoriesFrom, settle, hmake]
    dsimp only
    rw [if_pos h]
  | cons step before =>
    have hsteps : (step :: before).reverse = steps := by rw [← hs, List.reverse_reverse]
    rw [makeDirectoriesFrom, hsteps, hmake]
    dsimp only
    rw [if_pos h]

/-! Directories that cannot be made. -/

theorem walk_append (d : Disk) (place steps : List String) (step : String) :
    d.walk place (steps ++ [step]) =
      match d.walk place steps with
      | .ok found => d.walk found [step]
      | .error refusal => .error refusal := by
  induction steps generalizing place with
  | nil => rfl
  | cons first steps ih =>
    rw [List.cons_append, walk, walk]
    split
    · split_ifs
      · rfl
      · exact ih _
      · exact ih _
    · rfl
    · rfl

theorem joined_cons (first second : String) (steps : List String) :
    Path.joined (first :: second :: steps) = first ++ "/" ++ Path.joined (second :: steps) := rfl

theorem size_joined_le (steps : List String) (step : String) :
    (Path.joined steps).utf8ByteSize ≤ (Path.joined (steps ++ [step])).utf8ByteSize := by
  induction steps with
  | nil => exact Nat.zero_le _
  | cons first steps ih =>
    cases steps with
    | nil =>
      rw [List.cons_append, List.nil_append, joined_cons]
      simp only [Path.joined, String.utf8ByteSize_append]
      omega
    | cons second steps =>
      rw [List.cons_append, List.cons_append, joined_cons, joined_cons]
      rw [List.cons_append] at ih
      simp only [String.utf8ByteSize_append]
      omega

theorem toString_short {root step : String} {steps : List String}
    (h : ¬ longestPath < (Path.toString ⟨root, steps ++ [step]⟩).utf8ByteSize) :
    ¬ longestPath < (Path.toString ⟨root, steps⟩).utf8ByteSize := by
  have hle := size_joined_le steps step
  unfold Path.toString at h ⊢
  split_ifs with hempty
  · decide
  · rw [if_neg (by simp)] at h
    simp only [String.utf8ByteSize_append] at h ⊢
    omega

/-- A path that leads somewhere leads through a directory. -/
theorem isDirectory_of_locate {d : Disk} {root step : String} {steps place : List String}
    (h : d.locate ⟨root, steps ++ [step]⟩ = .ok place) : d.isDirectory ⟨root, steps⟩ = true := by
  unfold locate at h
  split_ifs at h with hlong
  rw [walk_append] at h
  cases hwalk : d.walk [] steps with
  | error refusal => simp [hwalk] at h
  | ok found =>
    refine isDirectory_iff.2 ⟨found, ?_, ?_⟩
    · rw [locate, if_neg (toString_short hlong), hwalk]
    · rw [hwalk] at h
      dsimp only at h
      rw [walk] at h
      split at h
      · next hdir => exact hdir
      · simp at h
      · simp at h

theorem settle_error {d d' : Disk} {p : Path} {fault : Fault}
    (h : d.settle p = (.error fault, d')) :
    d' = d ∧ d.makeDirectory p = .error fault ∧ d.isDirectory p = false := by
  unfold settle at h
  split at h
  · simp at h
  · next fault' hmake =>
    obtain ⟨hresult, hd⟩ := Prod.mk.inj h
    split_ifs at hresult with hdir
    obtain rfl := Except.error.inj hresult
    exact ⟨hd.symm, hmake, by simpa using hdir⟩

theorem settle_of_error {d : Disk} {p : Path} {fault : Fault}
    (hmake : d.makeDirectory p = .error fault) (hdir : d.isDirectory p = false) :
    d.settle p = (.error fault, d) := by
  rw [settle, hmake]
  dsimp only
  rw [hdir]
  rfl

section Refused

variable {root step : String} {before : List String}

theorem makeDirectoriesFrom_of_isDirectory {d : Disk}
    (hdir : d.isDirectory ⟨root, before.reverse⟩ = true) :
    makeDirectoriesFrom root before d = (.ok (), d) := by
  have hmade := makeDirectories_of_isDirectory hdir
  rwa [makeDirectories, List.reverse_reverse] at hmade

/-- Once a path is no directory and cannot be made, all depends on the directories that lead to it:
they are there, or cannot be made either. -/
theorem makeDirectoriesFrom_refused {d : Disk} {fault : Fault}
    (hmake : d.makeDirectory ⟨root, (step :: before).reverse⟩ = .error fault)
    (hdir : d.isDirectory ⟨root, (step :: before).reverse⟩ = false)
    (hbefore : makeDirectoriesFrom root before d = (.ok (), d) ∨
      ∃ fault', makeDirectoriesFrom root before d = (.error fault', d)) :
    ∃ fault', makeDirectoriesFrom root (step :: before) d = (.error fault', d) := by
  have hsettle := settle_of_error hmake hdir
  obtain ⟨refusal, path⟩ := fault
  rw [makeDirectoriesFrom, hmake]
  cases refusal with
  | notFound =>
    rcases hbefore with hbefore | ⟨fault', hbefore⟩
    · exact ⟨_, by dsimp only; rw [hbefore]; exact hsettle⟩
    · exact ⟨_, by dsimp only; rw [hbefore]⟩
  | _ => exact ⟨_, by dsimp only; rw [hdir]; rfl⟩

/-- Nothing is found behind directories that cannot be made. -/
theorem locate_of_refused {d : Disk} {fault : Fault}
    (h : makeDirectoriesFrom root before d = (.error fault, d)) (step : String) :
    ∃ refusal, d.locate ⟨root, (step :: before).reverse⟩ = .error refusal := by
  cases hlocate : d.locate ⟨root, (step :: before).reverse⟩ with
  | error refusal => exact ⟨refusal, rfl⟩
  | ok place =>
    rw [List.reverse_cons] at hlocate
    rw [makeDirectoriesFrom_of_isDirectory (isDirectory_of_locate hlocate)] at h
    simp at h

end Refused

/-- What cannot be made cannot be made the second time either, and nothing more is made of it. -/
theorem makeDirectoriesFrom_again (root : String) (steps : List String) {d d' : Disk}
    {fault : Fault} (h : makeDirectoriesFrom root steps d = (.error fault, d')) :
    ∃ fault', makeDirectoriesFrom root steps d' = (.error fault', d') := by
  induction steps generalizing d d' fault with
  | nil =>
    rw [makeDirectoriesFrom] at h ⊢
    obtain ⟨rfl, -, -⟩ := settle_error h
    exact ⟨fault, h⟩
  | cons step before ih =>
    have hfirst := h
    rw [makeDirectoriesFrom] at h
    split at h
    · simp at h
    · split at h
      · -- the directories that lead there were made
        next d₁ hfrom =>
        obtain ⟨rfl, hmake, hdir⟩ := settle_error h
        have hparent := (makeDirectoriesFrom_spec root before d).2 (by rw [hfrom])
        rw [hfrom] at hparent
        exact makeDirectoriesFrom_refused hmake hdir
          (.inl (makeDirectoriesFrom_of_isDirectory hparent))
      · -- one of them could not be made
        next fault₁ d₁ hfrom =>
        obtain ⟨-, rfl⟩ := Prod.mk.inj h
        obtain ⟨fault', hagain⟩ := ih hfrom
        obtain ⟨refusal, hlocate⟩ := locate_of_refused hagain step
        refine makeDirectoriesFrom_refused (by rw [makeDirectory, hlocate]) ?_
          (.inr ⟨fault', hagain⟩)
        rw [isDirectory, find?, hlocate]
        rfl
    · obtain ⟨-, rfl⟩ := Prod.mk.inj h
      exact ⟨fault, hfirst⟩

theorem makeDirectories_again {d d' : Disk} {p : Path} {fault : Fault}
    (h : d.makeDirectories p = (.error fault, d')) :
    ∃ fault', d'.makeDirectories p = (.error fault', d') :=
  makeDirectoriesFrom_again p.root p.steps.reverse h

/-! Disks on which directories were made and files of some names written. -/

/-- Between the disks nothing happened but that directories were made where nothing was, and files
with some names were written. -/
def Touches (names : List String) (d d' : Disk) : Prop :=
  ∀ place, d'.at? place = d.at? place ∨
    (d.at? place = none ∧ d'.at? place = some .directory) ∨
    ((∃ name ∈ names, place.getLast? = some name) ∧ d.at? place ≠ some .directory ∧
      ∃ content, d'.at? place = some (.file content))

theorem Grows.touches {d d' : Disk} (h : d.Grows d') (names : List String) :
    d.Touches names d' := by
  intro place
  rcases h place with h1 | h1
  · exact .inl h1
  · exact .inr (.inl h1)

theorem Touches.trans {names : List String} {d d' d'' : Disk} (h : d.Touches names d')
    (h' : d'.Touches names d'') : d.Touches names d'' := by
  intro place
  rcases h place with h1 | ⟨h1, h2⟩ | ⟨hname, h1, content, h2⟩
  · rw [← h1]
    exact h' place
  · rcases h' place with h3 | ⟨h3, -⟩ | ⟨-, h3, -⟩
    · exact .inr (.inl ⟨h1, h3.trans h2⟩)
    · rw [h2] at h3
      simp at h3
    · exact absurd h2 h3
  · rcases h' place with h3 | ⟨h3, -⟩ | ⟨-, -, content', h3⟩
    · exact .inr (.inr ⟨hname, h1, content, h3.trans h2⟩)
    · rw [h2] at h3
      simp at h3
    · exact .inr (.inr ⟨hname, h1, content', h3⟩)

theorem Touches.mono {names names' : List String} {d d' : Disk} (h : d.Touches names d')
    (hsub : names ⊆ names') : d.Touches names' d' := by
  intro place
  rcases h place with h1 | h1 | ⟨⟨name, hmem, hlast⟩, h1⟩
  · exact .inl h1
  · exact .inr (.inl h1)
  · exact .inr (.inr ⟨⟨name, hsub hmem, hlast⟩, h1⟩)

theorem Touches.keeps {names : List String} {d d' : Disk} (h : d.Touches names d') :
    d.Keeps d' := by
  intro place hp
  rcases h place with h1 | ⟨h1, -⟩ | ⟨-, h1, -⟩
  · rw [h1, hp]
  · rw [hp] at h1
    simp at h1
  · exact absurd hp h1

/-! Paths that end in a name. -/

/-- A path that ends in a name leads to a place of that name. -/
theorem getLast_of_locate {d : Disk} {root name : String} {steps place : List String}
    (hname : name ≠ "..") (h : d.locate ⟨root, steps ++ [name]⟩ = .ok place) :
    place.getLast? = some name := by
  unfold locate at h
  split_ifs at h
  rw [walk_append] at h
  split at h
  · next found _ =>
    rw [walk] at h
    split at h
    · split_ifs at h
      obtain rfl := Except.ok.inj h
      simp
    · simp at h
    · simp at h
  · simp at h

theorem write_touches {d d' : Disk} {root name : String} {steps : List String} {content : Bytes}
    (hname : name ≠ "..") (h : d.write ⟨root, steps ++ [name]⟩ content = .ok d') :
    d.Touches [name] d' := by
  obtain ⟨place, hplace, hne, hnode, rfl⟩ := write_eq h
  intro other
  rw [at?_put d hne]
  split_ifs with heq
  · subst heq
    exact .inr (.inr ⟨⟨name, by simp, getLast_of_locate hname hplace⟩, hnode, content, rfl⟩)
  · exact .inl rfl

/-- A path in a directory that is there leads nowhere for one reason alone, which stays. -/
theorem locate_error_keeps {d d' : Disk} (h : d.Keeps d') {root name : String}
    {steps : List String} (hdir : d.isDirectory ⟨root, steps⟩ = true) {refusal : Refusal}
    (hl : d.locate ⟨root, steps ++ [name]⟩ = .error refusal) :
    d'.locate ⟨root, steps ++ [name]⟩ = .error refusal := by
  obtain ⟨place, hplace, hd⟩ := isDirectory_iff.1 hdir
  have hwalk : d.walk [] steps = .ok place := by
    unfold locate at hplace
    split_ifs at hplace
    exact hplace
  unfold locate at hl ⊢
  split_ifs at hl ⊢ with hlong
  · exact hl
  · rw [walk_append, hwalk] at hl
    rw [walk_append, walk_keeps h hwalk]
    dsimp only at hl ⊢
    rw [walk, hd] at hl
    rw [walk, h place hd]
    dsimp only at hl ⊢
    split_ifs at hl ⊢
    all_goals exact hl

/-- A file in a directory that is there is left alone when files of other names are written. -/
theorem read_touches {names : List String} {d d' : Disk} (h : d.Touches names d')
    {root name : String} {steps : List String} (hdir : d.isDirectory ⟨root, steps⟩ = true)
    (hdots : name ≠ "..") (hname : name ∉ names) :
    (d'.read ⟨root, steps ++ [name]⟩).toOption = (d.read ⟨root, steps ++ [name]⟩).toOption := by
  cases hl : d.locate ⟨root, steps ++ [name]⟩ with
  | error refusal =>
    rw [read, read, hl, locate_error_keeps h.keeps hdir hl]
  | ok place =>
    have hlast := getLast_of_locate hdots hl
    rw [read, read, hl, locate_keeps h.keeps hl]
    dsimp only
    rcases h place with h1 | ⟨h1, h2⟩ | ⟨⟨name', hmem, hname'⟩, -⟩
    · rw [h1]
    · rw [h1, h2]
      rfl
    · rw [hlast] at hname'
      exact absurd (Option.some.inj hname' ▸ hmem) hname

/-- A file of another name that is there is still there. -/
theorem read_ok_touches {names : List String} {d d' : Disk} (h : d.Touches names d')
    {root name : String} {steps : List String} (hdots : name ≠ "..") (hname : name ∉ names)
    {content : Bytes} (hread : d.read ⟨root, steps ++ [name]⟩ = .ok content) :
    d'.read ⟨root, steps ++ [name]⟩ = .ok content := by
  have hdir : d.isDirectory ⟨root, steps⟩ = true := by
    unfold read at hread
    split at hread
    · simp at hread
    · next place hplace => exact isDirectory_of_locate hplace
  have hsame := read_touches h hdir hdots hname
  rw [hread] at hsame
  cases hread' : d'.read ⟨root, steps ++ [name]⟩ with
  | ok content' =>
    rw [hread'] at hsame
    rw [Option.some.inj hsame]
  | error f =>
    rw [hread'] at hsame
    exact nomatch hsame

/-- A place of another name that holds no file goes on to hold none. -/
theorem Touches.noFile {names : List String} {d d' : Disk} (h : d.Touches names d')
    {place : List String} (hnames : ∀ name ∈ names, place.getLast? ≠ some name)
    (hfile : ∀ content, d.at? place ≠ some (.file content)) (content : Bytes) :
    d'.at? place ≠ some (.file content) := by
  intro hcontent
  rcases h place with h1 | ⟨-, h1⟩ | ⟨⟨name, hmem, hname⟩, -⟩
  · exact hfile content (h1 ▸ hcontent)
  · rw [h1] at hcontent
    simp at hcontent
  · exact hnames name hmem hname

/-! Paths without double dots. -/

/-- A walk without double dots goes straight down. -/
theorem walk_plain {d : Disk} {steps place found : List String} (hdots : ".." ∉ steps)
    (h : d.walk place steps = .ok found) : found = place ++ steps := by
  induction steps generalizing place with
  | nil =>
    obtain rfl := Except.ok.inj h
    exact (List.append_nil place).symm
  | cons step steps ih =>
    obtain ⟨hstep, hsteps⟩ := not_or.1 (fun h => hdots (List.mem_cons.2 h))
    rw [walk] at h
    split at h
    · split_ifs at h with hlong heq
      · exact absurd heq.symm hstep
      · rw [ih hsteps h, List.append_assoc, List.singleton_append]
    · simp at h
    · simp at h

/-- A walk over short steps is refused for no step. -/
theorem walk_short {d : Disk} {steps : List String}
    (hshort : ∀ step ∈ steps, step.utf8ByteSize ≤ longestStep) (place : List String) :
    d.walk place steps ≠ .error .nameTooLong := by
  induction steps generalizing place with
  | nil => simp [walk]
  | cons step steps ih =>
    have hstep := hshort step (by simp)
    rw [walk]
    split
    · rw [if_neg (by omega)]
      exact ih (fun s hs => hshort s (List.mem_cons_of_mem _ hs)) _
    · simp
    · simp

theorem locate_plain {d : Disk} {p : Path} {place : List String} (hdots : ".." ∉ p.steps)
    (h : d.locate p = .ok place) : place = p.steps := by
  unfold locate at h
  split_ifs at h
  exact walk_plain hdots h

theorem read_of_plain {d : Disk} {p : Path} (hdots : ".." ∉ p.steps)
    (hfile : ∀ content, d.at? p.steps ≠ some (.file content)) : (d.read p).toOption = none := by
  unfold read
  cases hl : d.locate p with
  | error refusal => rfl
  | ok place =>
    obtain rfl := locate_plain hdots hl
    dsimp only
    split
    · next content hcontent => exact absurd hcontent (hfile content)
    · rfl
    · rfl

/-- Where a path leads straight to no file, all depends on its length. -/
theorem hasFile_of_plain {d : Disk} {p : Path} (hdots : ".." ∉ p.steps)
    (hshort : ∀ step ∈ p.steps, step.utf8ByteSize ≤ longestStep)
    (hfile : ∀ content, d.at? p.steps ≠ some (.file content)) :
    d.hasFile p =
      if longestPath < p.toString.utf8ByteSize then .error ⟨.nameTooLong, p⟩ else .ok false := by
  unfold hasFile
  cases hl : d.locate p with
  | ok place =>
    obtain rfl := locate_plain hdots hl
    unfold locate at hl
    split_ifs at hl with hlong
    rw [if_neg hlong]
    dsimp only
    split
    · next content hcontent => exact absurd hcontent (hfile content)
    · rfl
  | error refusal =>
    unfold locate at hl
    split_ifs at hl with hlong
    · obtain rfl := Except.error.inj hl
      rw [if_pos hlong]
    · rw [if_neg hlong]
      cases refusal with
      | nameTooLong => exact absurd hl (walk_short hshort [])
      | _ => rfl

/-! Paths that lie aside of some names. -/

/-- A path that leads to a place of another name is asked and read as before. -/
theorem hasFile_touches {names : List String} {d d' : Disk} (h : d.Touches names d') {p : Path}
    {place : List String} (hl : d.locate p = .ok place)
    (hnames : ∀ name ∈ names, place.getLast? ≠ some name) :
    d'.hasFile p = d.hasFile p ∧ (d.hasFile p = .ok true → d'.readText p = d.readText p) := by
  have hl' := locate_keeps h.keeps hl
  rcases h place with h1 | ⟨h1, h2⟩ | ⟨⟨name, hmem, hname⟩, -⟩
  · rw [hasFile, hasFile, readText, readText, read, read, hl, hl']
    dsimp only
    rw [h1]
    exact ⟨rfl, fun _ => rfl⟩
  · rw [hasFile, hasFile, hl, hl']
    dsimp only
    rw [h1, h2]
    exact ⟨rfl, by simp⟩
  · exact absurd hname (hnames name hmem)

/-- A path at which no file of these names lies: it leads to a place of another name, or it would
lead straight to one, where no file is. -/
def Aside (names : List String) (d : Disk) (p : Path) : Prop :=
  (∃ place, d.locate p = .ok place ∧ ∀ name ∈ names, place.getLast? ≠ some name) ∨
    ".." ∉ p.steps ∧ (∀ step ∈ p.steps, step.utf8ByteSize ≤ longestStep) ∧
      (∀ name ∈ names, p.steps.getLast? ≠ some name) ∧
      ∀ content, d.at? p.steps ≠ some (.file content)

theorem Aside.touches {names : List String} {d d' : Disk} {p : Path} (h : d.Aside names p)
    (ht : d.Touches names d') : d'.Aside names p := by
  rcases h with ⟨place, hplace, hnames⟩ | ⟨hdots, hshort, hnames, hfile⟩
  · exact .inl ⟨place, locate_keeps ht.keeps hplace, hnames⟩
  · exact .inr ⟨hdots, hshort, hnames, ht.noFile hnames hfile⟩

/-- A path aside is asked and read as before when files of these names are written. -/
theorem Aside.hasFile {names : List String} {d d' : Disk} {p : Path} (h : d.Aside names p)
    (ht : d.Touches names d') :
    d'.hasFile p = d.hasFile p ∧ (d.hasFile p = .ok true → d'.readText p = d.readText p) := by
  rcases h with ⟨place, hplace, hnames⟩ | ⟨hdots, hshort, hnames, hfile⟩
  · exact hasFile_touches ht hplace hnames
  · rw [hasFile_of_plain hdots hshort hfile,
      hasFile_of_plain hdots hshort (ht.noFile hnames hfile)]
    refine ⟨rfl, fun hfound => ?_⟩
    split_ifs at hfound
    simp at hfound

end FormulaOcr.Disk
