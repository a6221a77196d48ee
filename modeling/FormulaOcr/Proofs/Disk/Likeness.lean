import FormulaOcr.Proofs.Disk

/-! Two disks of the same shape, on which nothing but the contents of files of one name may differ.
Every operation comes to the same on both, and leaves such disks. -/

namespace FormulaOcr

/-- The same node, or two files at a place of a name, with contents that are alike. -/
inductive Node.Like (name : String) (F : Bytes → Bytes → Prop) (place : List String) :
    Node → Node → Prop
  | same (n : Node) : Like name F place n n
  | file (hname : place.getLast? = some name) {b b' : Bytes} (h : F b b') :
      Like name F place (.file b) (.file b')

namespace Disk

/-- The same places, with nodes that are alike. -/
def Like (name : String) (F : Bytes → Bytes → Prop) (d d' : Disk) : Prop :=
  List.Forall₂ (fun e e' => e.1 = e'.1 ∧ Node.Like name F e.1 e.2 e'.2) d.nodes d'.nodes

variable {name : String} {F : Bytes → Bytes → Prop} {d d' : Disk}

theorem Like.refl (d : Disk) : d.Like name F d :=
  List.forall₂_same.2 fun e _ => ⟨rfl, .same e.2⟩

/-- Contents that are alike only if they are the same make disks the same. -/
theorem Like.eq (h : d.Like name Eq d') : d = d' := by
  obtain ⟨nodes⟩ := d
  obtain ⟨nodes'⟩ := d'
  congr 1
  unfold Like at h
  dsimp only at h
  induction h with
  | nil => rfl
  | @cons e e' nodes nodes' hentry _ ih =>
    obtain ⟨place, node⟩ := e
    obtain ⟨place', node'⟩ := e'
    obtain ⟨rfl, hnode⟩ : place = place' ∧ Node.Like name Eq place node node' := hentry
    rw [ih]
    cases hnode with
    | same n => rfl
    | file _ hcontent => rw [hcontent]

theorem lookup_like {nodes nodes' : List (List String × Node)}
    (h : List.Forall₂ (fun e e' => e.1 = e'.1 ∧ Node.Like name F e.1 e.2 e'.2) nodes nodes')
    (place : List String) :
    Option.Rel (Node.Like name F place) (nodes.lookup place) (nodes'.lookup place) := by
  induction h with
  | nil => exact .none
  | @cons e e' nodes nodes' hentry _ ih =>
    obtain ⟨at', node⟩ := e
    obtain ⟨at'', node'⟩ := e'
    obtain ⟨rfl, hnode⟩ : at' = at'' ∧ Node.Like name F at' node node' := hentry
    rw [List.lookup_cons, List.lookup_cons]
    by_cases hplace : place = at'
    · subst hplace
      rw [beq_self_eq_true]
      exact .some hnode
    · rw [beq_eq_false_iff_ne.2 hplace]
      exact ih

namespace Like

variable (h : d.Like name F d')
include h

theorem at? (place : List String) :
    Option.Rel (Node.Like name F place) (d.at? place) (d'.at? place) := by
  unfold Disk.at?
  split_ifs
  · exact .some (.same _)
  · exact lookup_like h place

/-- Where there is a directory on one disk there is one on the other, and where nothing is nothing
is. -/
theorem shape (place : List String) :
    (d.at? place = none ∧ d'.at? place = none) ∨
      (d.at? place = some .directory ∧ d'.at? place = some .directory) ∨
      ∃ b b', d.at? place = some (.file b) ∧ d'.at? place = some (.file b') ∧
        (b = b' ∨ place.getLast? = some name ∧ F b b') := by
  have hat := h.at? place
  generalize d.at? place = found at hat ⊢
  generalize d'.at? place = found' at hat ⊢
  cases hat with
  | none => exact .inl ⟨rfl, rfl⟩
  | some hnode =>
    cases hnode with
    | same =>
      rename_i n
      cases n with
      | directory => exact .inr (.inl ⟨rfl, rfl⟩)
      | file b => exact .inr (.inr ⟨b, b, rfl, rfl, .inl rfl⟩)
    | file hname hcontent => exact .inr (.inr ⟨_, _, rfl, rfl, .inr ⟨hname, hcontent⟩⟩)

theorem put (place : List String) {n n' : Node} (hn : Node.Like name F place n n') :
    (d.put place n).Like name F (d'.put place n') := by
  have hthere : d.nodes.any (·.1 == place) = d'.nodes.any (·.1 == place) := by
    rw [any_eq_isSome_lookup, any_eq_isSome_lookup]
    have hfound := lookup_like h place
    generalize d.nodes.lookup place = found at hfound ⊢
    generalize d'.nodes.lookup place = found' at hfound ⊢
    cases hfound <;> rfl
  unfold Disk.put
  rw [hthere]
  split_ifs
  · apply List.rel_map _ h
    rintro ⟨at', node⟩ ⟨at'', node'⟩ ⟨hat, hnode⟩
    obtain rfl : at' = at'' := hat
    dsimp only
    split_ifs
    · exact ⟨rfl, hn⟩
    · exact ⟨rfl, hnode⟩
  · exact List.rel_append h (.cons ⟨rfl, hn⟩ .nil)

theorem walk (place steps : List String) : d.walk place steps = d'.walk place steps := by
  induction steps generalizing place with
  | nil => rfl
  | cons step steps ih =>
    unfold Disk.walk
    rcases h.shape place with ⟨hd, hd'⟩ | ⟨hd, hd'⟩ | ⟨b, b', hd, hd', -⟩
    · rw [hd, hd']
    · rw [hd, hd']
      dsimp only
      rw [ih]
    · rw [hd, hd']

theorem locate (p : Path) : d.locate p = d'.locate p := by
  unfold Disk.locate
  rw [h.walk]

theorem isDirectory (p : Path) : d.isDirectory p = d'.isDirectory p := by
  rw [Bool.eq_iff_iff, isDirectory_iff, isDirectory_iff, h.locate]
  have hdir (place : List String) :
      d.at? place = some .directory ↔ d'.at? place = some .directory := by
    rcases h.shape place with ⟨hd, hd'⟩ | ⟨hd, hd'⟩ | ⟨b, b', hd, hd', -⟩
    all_goals simp [hd, hd']
  simp only [hdir]

theorem hasFile (p : Path) : d.hasFile p = d'.hasFile p := by
  unfold Disk.hasFile
  rw [h.locate]
  cases d'.locate p with
  | error refusal => cases refusal <;> rfl
  | ok place =>
    dsimp only
    rcases h.shape place with ⟨hd, hd'⟩ | ⟨hd, hd'⟩ | ⟨b, b', hd, hd', -⟩
    all_goals rw [hd, hd']

/-- A file of another name reads the same; one of the name may have contents that are alike. -/
theorem read (p : Path) :
    d.read p = d'.read p ∨
      ∃ b b' place, d.read p = .ok b ∧ d'.read p = .ok b' ∧ F b b' ∧ d.locate p = .ok place ∧
        place.getLast? = some name := by
  unfold Disk.read
  rw [← h.locate]
  cases hplace : d.locate p with
  | error refusal => exact .inl rfl
  | ok place =>
    dsimp only
    rcases h.shape place with ⟨hd, hd'⟩ | ⟨hd, hd'⟩ | ⟨b, b', hd, hd', rfl | ⟨hname, hcontent⟩⟩
    · exact .inl (by rw [hd, hd'])
    · exact .inl (by rw [hd, hd'])
    · exact .inl (by rw [hd, hd'])
    · rw [hd, hd']
      exact .inr ⟨b, b', place, rfl, rfl, hcontent, rfl, hname⟩

theorem read_other {root other : String} {steps : List String} (hdots : other ≠ "..")
    (hother : other ≠ name) :
    d.read ⟨root, steps ++ [other]⟩ = d'.read ⟨root, steps ++ [other]⟩ := by
  rcases h.read ⟨root, steps ++ [other]⟩ with hsame | ⟨b, b', place, -, -, -, hplace, hlast⟩
  · exact hsame
  · rw [getLast_of_locate hdots hplace] at hlast
    exact absurd (Option.some.inj hlast) hother

/-- Both disks make a directory, or neither does. -/
theorem makeDirectory (p : Path) :
    (∃ f, d.makeDirectory p = .error f ∧ d'.makeDirectory p = .error f) ∨
      ∃ e e', d.makeDirectory p = .ok e ∧ d'.makeDirectory p = .ok e' ∧ e.Like name F e' := by
  unfold Disk.makeDirectory
  rw [← h.locate]
  cases d.locate p with
  | error refusal => exact .inl ⟨_, rfl, rfl⟩
  | ok place =>
    dsimp only
    rcases h.shape place with ⟨hd, hd'⟩ | ⟨hd, hd'⟩ | ⟨b, b', hd, hd', -⟩
    · rw [hd, hd']
      exact .inr ⟨_, _, rfl, rfl, h.put place (.same _)⟩
    · rw [hd, hd']
      exact .inl ⟨_, rfl, rfl⟩
    · rw [hd, hd']
      exact .inl ⟨_, rfl, rfl⟩

theorem settle (p : Path) :
    (d.settle p).1 = (d'.settle p).1 ∧ (d.settle p).2.Like name F (d'.settle p).2 := by
  unfold Disk.settle
  rcases h.makeDirectory p with ⟨f, hd, hd'⟩ | ⟨e, e', hd, hd', hmade⟩
  · rw [hd, hd', ← h.isDirectory]
    exact ⟨rfl, h⟩
  · rw [hd, hd']
    exact ⟨rfl, hmade⟩

theorem makeDirectoriesFrom (root : String) (steps : List String) :
    (Disk.makeDirectoriesFrom root steps d).1 = (Disk.makeDirectoriesFrom root steps d').1 ∧
      (Disk.makeDirectoriesFrom root steps d).2.Like name F
        (Disk.makeDirectoriesFrom root steps d').2 := by
  -- along the path, from its end: a parent is made only where the directory itself cannot be
  induction steps with
  | nil => exact h.settle ⟨root, []⟩
  | cons step before ih =>
    unfold Disk.makeDirectoriesFrom
    dsimp only
    rcases h.makeDirectory ⟨root, (step :: before).reverse⟩ with
      ⟨⟨refusal, p⟩, hd, hd'⟩ | ⟨e, e', hd, hd', hmade⟩
    · rw [hd, hd']
      cases refusal with
      | notFound =>
        dsimp only
        generalize Disk.makeDirectoriesFrom root before d = done at ih ⊢
        generalize Disk.makeDirectoriesFrom root before d' = done' at ih ⊢
        obtain ⟨result, made⟩ := done
        obtain ⟨result', made'⟩ := done'
        obtain ⟨hresult, hmade⟩ := ih
        obtain rfl : result = result' := hresult
        cases result with
        | ok u => exact Like.settle hmade _
        | error f => exact ⟨rfl, hmade⟩
      | _ => exact ⟨by dsimp only; rw [h.isDirectory], h⟩
    · rw [hd, hd']
      exact ⟨rfl, hmade⟩

/-- Both disks make the directories that lead to a path, or neither does. -/
theorem makeDirectories (p : Path) :
    (d.makeDirectories p).1 = (d'.makeDirectories p).1 ∧
      (d.makeDirectories p).2.Like name F (d'.makeDirectories p).2 :=
  h.makeDirectoriesFrom p.root p.steps.reverse

/-- Both disks take a file, or neither does. Contents that are alike go to files of the name. -/
theorem write {p : Path} {b b' : Bytes}
    (hcontent : b = b' ∨ F b b' ∧ ∀ place, d.locate p = .ok place → place.getLast? = some name) :
    (∃ f, d.write p b = .error f ∧ d'.write p b' = .error f) ∨
      ∃ e e', d.write p b = .ok e ∧ d'.write p b' = .ok e' ∧ e.Like name F e' := by
  unfold Disk.write
  rw [← h.locate]
  cases hplace : d.locate p with
  | error refusal => exact .inl ⟨_, rfl, rfl⟩
  | ok place =>
    have hnode : Node.Like name F place (.file b) (.file b') := by
      rcases hcontent with rfl | ⟨hlike, hname⟩
      · exact .same _
      · exact .file (hname place hplace) hlike
    dsimp only
    rcases h.shape place with ⟨hd, hd'⟩ | ⟨hd, hd'⟩ | ⟨c, c', hd, hd', -⟩
    · rw [hd, hd']
      exact .inr ⟨_, _, rfl, rfl, h.put place hnode⟩
    · rw [hd, hd']
      exact .inl ⟨_, rfl, rfl⟩
    · rw [hd, hd']
      exact .inr ⟨_, _, rfl, rfl, h.put place hnode⟩

end Like

end Disk

end FormulaOcr
