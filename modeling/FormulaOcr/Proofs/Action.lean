import FormulaOcr.Proofs.Disk
import FormulaOcr.Store
import FormulaOcr.Usage

/-! What actions come to, step by step: the outcome in a world and the world after it. -/

namespace FormulaOcr

/-- The JSON value in the bytes of a file. -/
def Json.inBytes (b : Bytes) : Option Json :=
  match Encoding.Utf8.decode b with
  | .ok t => (Json.read (Text.withLineFeeds t)).toOption
  | .error _ => none

namespace Action

variable {α β : Type}

/-- The outcome of an action in a world, and the world after it. -/
def exec (a : Action α) (w : World) : Except Fault α × World :=
  a.run.run w

theorem exec_pure (x : α) (w : World) : exec (pure x) w = (.ok x, w) := rfl

theorem exec_throw (f : Fault) (w : World) : exec (throw f : Action α) w = (.error f, w) := rfl

theorem exec_get (w : World) : exec (get : Action World) w = (.ok w, w) := rfl

theorem exec_set (w' w : World) : exec (set w' : Action PUnit) w = (.ok ⟨⟩, w') := rfl

theorem exec_modify (f : World → World) (w : World) :
    exec (modify f : Action PUnit) w = (.ok ⟨⟩, f w) := rfl

theorem exec_bind (a : Action α) (f : α → Action β) (w : World) :
    exec (a >>= f) w =
      match exec a w with
      | (.ok x, w') => exec (f x) w'
      | (.error e, w') => (.error e, w') := by
  change (StateT.run (ExceptT.run (a >>= f)) w) = match a.run.run w with
    | (.ok x, w') => exec (f x) w'
    | (.error e, w') => (.error e, w')
  rw [ExceptT.run_bind, StateT.run_bind]
  cases h : a.run.run w with
  | mk result w' => cases result <;> rfl

theorem exec_bind_ok {a : Action α} {w w' : World} {x : α} (h : exec a w = (.ok x, w'))
    (f : α → Action β) : exec (a >>= f) w = exec (f x) w' := by
  rw [exec_bind, h]

theorem exec_bind_error {a : Action α} {w w' : World} {e : Fault}
    (h : exec a w = (.error e, w')) (f : α → Action β) : exec (a >>= f) w = (.error e, w') := by
  rw [exec_bind, h]

/-- An action that comes to a result comes to one at each of its steps. -/
theorem exec_bind_eq_ok {a : Action α} {f : α → Action β} {w w' : World} {y : β}
    (h : exec (a >>= f) w = (.ok y, w')) :
    ∃ x v, exec a w = (.ok x, v) ∧ exec (f x) v = (.ok y, w') := by
  rw [exec_bind] at h
  cases ha : exec a w with
  | mk result v =>
    rw [ha] at h
    cases result with
    | ok x => exact ⟨x, v, rfl, h⟩
    | error e => simp at h

theorem eq_ok_of_toOption {ε : Type} {r : Except ε α} {x : α} (h : r.toOption = some x) :
    r = .ok x := by
  cases r with
  | ok y => exact congrArg Except.ok (Option.some.inj h)
  | error e => exact absurd h (by simp [Except.toOption])

theorem exec_eq_ok {a : Action α} {w : World} (h : (exec a w).1.toOption.isSome = true) :
    ∃ x w', exec a w = (.ok x, w') := by
  obtain ⟨x, hx⟩ := Option.isSome_iff_exists.1 h
  exact ⟨x, _, Prod.ext (eq_ok_of_toOption hx) rfl⟩

theorem exec_ofCrash (r : Except Crash α) (w : World) :
    exec (ofCrash r) w = (r.mapError .crash, w) := by
  cases r <;> rfl

/-- A failure becomes a result, a crash stays one. -/
theorem exec_attempt (a : Action α) (w : World) :
    exec (attempt a) w =
      match exec a w with
      | (.ok x, w') => (.ok (.ok x), w')
      | (.error (.failure f), w') => (.ok (.error f), w')
      | (.error (.crash c), w') => (.error (.crash c), w') := by
  have hcatch (b : Action (Except Failure α)) (handler : Fault → Action (Except Failure α)) :
      exec (tryCatch b handler) w =
        match exec b w with
        | (.ok x, w') => (.ok x, w')
        | (.error e, w') => exec (handler e) w' := by
    rw [exec, ExceptT.run_tryCatch, StateT.run_bind]
    unfold exec
    rcases b.run.run w with ⟨result, w'⟩
    cases result <;> rfl
  unfold attempt
  rw [hcatch, exec_bind]
  rcases exec a w with ⟨result, w'⟩
  cases result with
  | ok x => rfl
  | error e => cases e <;> rfl

/-! Files. -/

/-- The JSON value of a file, if it holds one. -/
def contentOf (d : Disk) (p : Path) : Option Json :=
  match d.readText p with
  | .ok text => (Json.read text).toOption
  | .error _ => none

theorem contentOf_eq (d : Disk) (p : Path) :
    contentOf d p = (d.read p).toOption.bind Json.inBytes := by
  unfold contentOf Disk.readText Json.inBytes
  cases d.read p with
  | error f => rfl
  | ok b =>
    dsimp only [Except.toOption, Option.bind]
    cases Encoding.Utf8.decode b <;> rfl

/-- The value of a file depends on its bytes alone. -/
theorem contentOf_congr {d d' : Disk} {p : Path}
    (h : (d'.read p).toOption = (d.read p).toOption) : contentOf d' p = contentOf d p := by
  rw [contentOf_eq, contentOf_eq, h]

theorem exec_readFile (p : Path) (w : World) :
    exec (readFile p) w = (.ok (contentOf w.disk p), w) := by
  unfold readFile contentOf
  rw [exec_bind, exec_get]
  dsimp only
  cases w.disk.readText p <;> rfl

/-- The directory that a path leads into. -/
def parent (p : Path) : Path :=
  ⟨p.root, p.steps.dropLast⟩

/-- A file is written once its directory is there. -/
theorem exec_writeFile (p : Path) (text : List Char) (w : World) :
    exec (writeFile p text) w =
      match w.disk.makeDirectories (parent p) with
      | (.error f, d) => (.error (.crash (.disk f)), { w with disk := d })
      | (.ok (), d) =>
        match d.write p (Encoding.Utf8.encode text) with
        | .error f => (.error (.crash (.disk f)), { w with disk := d })
        | .ok d' => (.ok (), { w with disk := d' }) := by
  unfold writeFile
  rw [exec_bind, exec_get]
  dsimp only
  rw [← parent]
  rcases w.disk.makeDirectories (parent p) with ⟨made, d⟩
  dsimp only
  rw [exec_bind, exec_set]
  dsimp only
  rw [exec_bind, exec_ofCrash]
  cases made with
  | error f => rfl
  | ok _ =>
    dsimp only [Except.mapError]
    rw [exec_bind, exec_ofCrash]
    cases d.write p (Encoding.Utf8.encode text) <;> rfl

/-- A file that was written holds the bytes of the text, and nothing else of the world changed. -/
theorem writeFile_ok {p : Path} {text : List Char} {w w' : World}
    (h : exec (writeFile p text) w = (.ok (), w')) :
    ∃ d, w' = { w with disk := d } ∧ d.read p = .ok (Encoding.Utf8.encode text) := by
  rw [exec_writeFile] at h
  split at h
  · simp at h
  · split at h
    · simp at h
    · next d' hwrite =>
      exact ⟨d', (Prod.mk.inj h).2.symm, Disk.read_write hwrite⟩

end Action

end FormulaOcr
