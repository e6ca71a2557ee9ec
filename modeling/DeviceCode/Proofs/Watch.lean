import DeviceCode.Proofs.Soundness

/-!
# Watching what was loaded from where

The simulator forgets where code came from: an executable does not say which code object was loaded
into it, nor a code object which memory it was read from. To state that backing memory outlives the
code that needs it, an accelerator is put behind one that takes notes. The notes (`Ties`) are ghost
state: nothing reads them, so a loader does the same with and without them
(`Loader.unwatched_runs` and the theorems after it).
-/

namespace DeviceCode

variable {σ α β : Type}

/-- What code was loaded from. -/
inductive Backing where
  | codeObject (c : CodeObjectHandle)
  | reader (r : ReaderHandle)
  deriving DecidableEq, Repr

/-- What was tied to what so far. Only calls that succeed are noted, and no note is ever taken
back. -/
structure Ties where
  /-- Code objects and the addresses of device memory that they were read from. -/
  readFrom : List (CodeObjectHandle × Nat) := []
  /-- Executables and what was loaded into them. -/
  loaded : List (ExecutableHandle × Backing) := []
  /-- Executables and the addresses that globals were bound to in them. -/
  bound : List (ExecutableHandle × UInt64) := []
  deriving DecidableEq, Repr

namespace Ties

/-- Earlier notes and later ones. -/
def add (t u : Ties) : Ties where
  readFrom := t.readFrom ++ u.readFrom
  loaded := t.loaded ++ u.loaded
  bound := t.bound ++ u.bound

@[simp] theorem add_nil (t : Ties) : t.add {} = t := by
  unfold add
  rw [List.append_nil, List.append_nil, List.append_nil]

theorem add_assoc (t u v : Ties) : (t.add u).add v = t.add (u.add v) := by
  unfold add
  rw [List.append_assoc, List.append_assoc, List.append_assoc]

end Ties

/-- An accelerator's state and the notes taken so far. -/
structure Watched (σ : Type) where
  inner : σ
  ties : Ties := {}
  deriving DecidableEq, Repr

namespace Watched

/-- Pass a call on, and note what it tied when it succeeds. -/
def pass (call : σ → Reply σ α) (note : α → Ties) (s : Watched σ) : Reply (Watched σ) α :=
  match call s.inner with
  | (.ok a, inner) => (.ok a, { inner, ties := s.ties.add (note a) })
  | (.error e, inner) => (.error e, { inner, ties := s.ties })

variable {call : σ → Reply σ α} {note : α → Ties} {s : Watched σ} {t : σ}

theorem pass_ok {a : α} (h : call s.inner = (.ok a, t)) :
    pass call note s = (.ok a, ⟨t, s.ties.add (note a)⟩) := by
  unfold pass
  rw [h]

theorem pass_error {e : CallError} (h : call s.inner = (.error e, t)) :
    pass call note s = (.error e, ⟨t, s.ties⟩) := by
  unfold pass
  rw [h]

/-- The state without the notes. -/
def Erases (s : Watched σ) (t : σ) : Prop := s.inner = t

theorem pass_erases (call : σ → Reply σ α) (note : α → Ties) :
    CallsAlike Erases (pass call note) call := by
  rintro s t rfl
  rcases h : call s.inner with ⟨_ | a, t⟩
  · rw [pass_error h]
    exact ⟨rfl, rfl⟩
  · rw [pass_ok h]
    exact ⟨rfl, rfl⟩

end Watched

namespace Accelerator

/-- An accelerator behind one that notes what was tied to what. -/
def watch (a : Accelerator σ) : Accelerator (Watched σ) where
  name := a.name
  createExecutable := Watched.pass a.createExecutable fun _ => {}
  loadReader e g r := Watched.pass (a.loadReader e g r) fun _ => { loaded := [(e, .reader r)] }
  loadCodeObject e g c :=
    Watched.pass (a.loadCodeObject e g c) fun _ => { loaded := [(e, .codeObject c)] }
  freeze e := Watched.pass (a.freeze e) fun _ => {}
  destroyExecutable e := Watched.pass (a.destroyExecutable e) fun _ => {}
  getSymbol e g n := Watched.pass (a.getSymbol e g n) fun _ => {}
  defineGlobal e n x := Watched.pass (a.defineGlobal e n x) fun _ => { bound := [(e, x)] }
  createReader fs p := Watched.pass (a.createReader fs p) fun _ => {}
  destroyReader r := Watched.pass (a.destroyReader r) fun _ => {}
  deserialize x n := Watched.pass (a.deserialize x n) fun c => { readFrom := [(c, x)] }
  destroyCodeObject c := Watched.pass (a.destroyCodeObject c) fun _ => {}
  lockMemory g x n := Watched.pass (a.lockMemory g x n) fun _ => {}
  unlockMemory x := Watched.pass (a.unlockMemory x) fun _ => {}
  findRegion g := Watched.pass (a.findRegion g) fun _ => {}
  allocate r n := Watched.pass (a.allocate r n) fun _ => {}
  free x := Watched.pass (a.free x) fun _ => {}
  writeMemory x bs := Watched.pass (a.writeMemory x bs) fun _ => {}
  dispatch g q p bs w := Watched.pass (a.dispatch g q p bs w) fun _ => {}
  synchronize g := Watched.pass (a.synchronize g) fun _ => {}
  releaseCompletion c := Watched.pass (a.releaseCompletion c) fun _ => {}

theorem watch_alike (a : Accelerator σ) : a.watch.Alike Watched.Erases a where
  createExecutable := Watched.pass_erases _ _
  loadReader _ _ _ := Watched.pass_erases _ _
  loadCodeObject _ _ _ := Watched.pass_erases _ _
  freeze _ := Watched.pass_erases _ _
  destroyExecutable _ := Watched.pass_erases _ _
  getSymbol _ _ _ := Watched.pass_erases _ _
  defineGlobal _ _ _ := Watched.pass_erases _ _
  createReader _ _ := Watched.pass_erases _ _
  destroyReader _ := Watched.pass_erases _ _
  deserialize _ _ := Watched.pass_erases _ _
  destroyCodeObject _ := Watched.pass_erases _ _
  lockMemory _ _ _ := Watched.pass_erases _ _
  unlockMemory _ := Watched.pass_erases _ _
  findRegion _ := Watched.pass_erases _ _
  allocate _ _ := Watched.pass_erases _ _
  free _ := Watched.pass_erases _ _
  writeMemory _ _ := Watched.pass_erases _ _
  dispatch _ _ _ _ _ := Watched.pass_erases _ _
  synchronize _ := Watched.pass_erases _ _
  releaseCompletion _ := Watched.pass_erases _ _

end Accelerator

/-- A loader over a watched accelerator. -/
def Loader.watch (l : Loader σ) : Loader (Watched σ) where
  accelerator := l.accelerator.watch
  settings := l.settings
  hooks := l.hooks

namespace World

/-- A world whose accelerator is watched from now on. -/
def watched (w : World σ) : World (Watched σ) where
  accelerator := { inner := w.accelerator }
  host := w.host
  loader := w.loader
  completions := w.completions
  log := w.log
  hookCalls := w.hookCalls

/-- A world without the notes. -/
def unwatched (w : World (Watched σ)) : World σ where
  accelerator := w.accelerator.inner
  host := w.host
  loader := w.loader
  completions := w.completions
  log := w.log
  hookCalls := w.hookCalls

theorem match_unwatched (w : World (Watched σ)) : Match Watched.Erases w w.unwatched :=
  ⟨rfl, rfl, rfl, trivial, rfl, rfl, rfl⟩

theorem MatchOn.unwatched_eq {v : World (Watched σ)} {w : World σ} (h : Match Watched.Erases v w) :
    v.unwatched = w := by
  obtain ⟨a, b, c, d, e, f⟩ := w
  obtain ⟨h1, h2, h3, -, h4, h5, h6⟩ := h
  unfold unwatched
  rw [(h1 : v.accelerator.inner = a), h2, h3, h4, h5, h6]

end World

/-! ## The notes have no effect -/

/-- An action over a watched accelerator does what it does over the accelerator alone. -/
theorem Alike.unwatched {x : Action (Watched σ) α} {y : Action σ α}
    (h : Alike (World.Match Watched.Erases) Eq x y) (w : World (Watched σ)) :
    y w.unwatched = ((x w).1, (x w).2.unwatched) := by
  obtain ⟨ha, hw⟩ := h w w.unwatched w.match_unwatched
  exact Prod.ext ha.symm hw.unwatched_eq.symm

theorem AlikeE.unwatched {x : Attempt (Watched σ) α} {y : Attempt σ α}
    (h : AlikeE (World.Match Watched.Erases) Eq x y) (w : World (Watched σ)) :
    y w.unwatched = ((x w).1, (x w).2.unwatched) :=
  h.outcome.unwatched w

/-! ## Notes about a sound simulator -/

/-- Notes about handles up to the `n`-th. -/
structure Ties.Within (t : Ties) (n : Nat) : Prop where
  readFrom : ∀ x ∈ t.readFrom, x.1.id ≤ n
  loaded : ∀ x ∈ t.loaded, x.1.id ≤ n
  bound : ∀ x ∈ t.bound, x.1.id ≤ n

namespace Ties.Within

variable {t u : Ties} {m n : Nat}

theorem nil : Within {} n :=
  ⟨fun _ hx => absurd hx List.not_mem_nil, fun _ hx => absurd hx List.not_mem_nil,
    fun _ hx => absurd hx List.not_mem_nil⟩

theorem mono (h : t.Within m) (hmn : m ≤ n) : t.Within n :=
  ⟨fun x hx => Nat.le_trans (h.readFrom x hx) hmn, fun x hx => Nat.le_trans (h.loaded x hx) hmn,
    fun x hx => Nat.le_trans (h.bound x hx) hmn⟩

theorem add (h : t.Within n) (hu : u.Within n) : (t.add u).Within n where
  readFrom x hx := (List.mem_append.mp hx).elim (h.readFrom x) (hu.readFrom x)
  loaded x hx := (List.mem_append.mp hx).elim (h.loaded x) (hu.loaded x)
  bound x hx := (List.mem_append.mp hx).elim (h.bound x) (hu.bound x)

theorem of_readFrom {c : CodeObjectHandle} (hc : c.id ≤ n) (x : Nat) :
    Within { readFrom := [(c, x)] } n :=
  { nil with readFrom := fun y hy => by rw [List.mem_singleton.mp hy]; exact hc }

theorem of_loaded {e : ExecutableHandle} (he : e.id ≤ n) (b : Backing) :
    Within { loaded := [(e, b)] } n :=
  { nil with loaded := fun y hy => by rw [List.mem_singleton.mp hy]; exact he }

theorem of_bound {e : ExecutableHandle} (he : e.id ≤ n) (x : UInt64) :
    Within { bound := [(e, x)] } n :=
  { nil with bound := fun y hy => by rw [List.mem_singleton.mp hy]; exact he }

end Ties.Within

namespace Watched

open Simulator

/-- The simulator is sound, and all notes are about handles that were handed out. -/
structure Sound (s : Watched Simulator) : Prop where
  inner : s.inner.Sound
  ties : s.ties.Within s.inner.lastHandle

theorem Sound.passed {s : Watched Simulator} (h : Sound s) {call : Simulator → Reply Simulator α}
    {note : α → Ties} (hc : Called s.inner (call s.inner).2)
    (hnote : ∀ a t, call s.inner = (.ok a, t) → (note a).Within t.lastHandle) :
    Sound (pass call note s).2 := by
  rcases hcall : call s.inner with ⟨e | a, t⟩
  · rw [hcall] at hc
    rw [pass_error hcall]
    exact ⟨h.inner.called hc, h.ties.mono hc.lastHandle_le⟩
  · rw [hcall] at hc
    rw [pass_ok hcall]
    exact ⟨h.inner.called hc, (h.ties.mono hc.lastHandle_le).add (hnote a t hcall)⟩

/-- A call without notes keeps the watched simulator sound. -/
theorem Sound.passed_silent {s : Watched Simulator} (h : Sound s)
    {call : Simulator → Reply Simulator α} (hc : Called s.inner (call s.inner).2) :
    Sound (pass call (fun _ => {}) s).2 :=
  h.passed hc fun _ _ _ => .nil

/-- **A loader keeps a watched simulator sound.** -/
theorem sound_only : accelerator.watch.Alike (Only Sound) accelerator.watch where
  createExecutable := .only fun _ hs => hs.passed_silent .createExecutable
  loadReader e g r := .only fun s hs => hs.passed (.loadReader e g r) fun _ t ht => by
    rcases loadReader_cases s.inner e g r with ⟨_, _, _, h⟩ | ⟨exe, _, he, _, _, _, _, h⟩
    · cases h.symm.trans ht
    · cases h.symm.trans ht
      exact .of_loaded (hs.inner.executables e (Assoc.contains_of_get? he)) _
  loadCodeObject e g c := .only fun s hs => hs.passed (.loadCodeObject e g c) fun _ t ht => by
    rcases loadCodeObject_cases s.inner e g c with ⟨_, _, _, h⟩ | ⟨exe, _, he, _, _, _, _, h⟩
    · cases h.symm.trans ht
    · cases h.symm.trans ht
      exact .of_loaded (hs.inner.executables e (Assoc.contains_of_get? he)) _
  freeze e := .only fun _ hs => hs.passed_silent (.freeze e)
  destroyExecutable e := .only fun _ hs => hs.passed_silent (.destroyExecutable e)
  getSymbol e g n := .only fun _ hs => hs.passed_silent (.getSymbol e g n)
  defineGlobal e n x := .only fun s hs => hs.passed (.defineGlobal e n x) fun _ t ht => by
    rcases defineGlobal_cases s.inner e n x with ⟨_, _, _, h⟩ | ⟨exe, _, he, _, _, _, _, h⟩
    · cases h.symm.trans ht
    · cases h.symm.trans ht
      exact .of_bound (hs.inner.executables e (Assoc.contains_of_get? he)) _
  createReader fs p := .only fun _ hs => hs.passed_silent (.createReader fs p)
  destroyReader r := .only fun _ hs => hs.passed_silent (.destroyReader r)
  deserialize x n := .only fun s hs => hs.passed (.deserialize x n) fun c t ht => by
    rcases deserialize_cases s.inner x n with ⟨_, _, _, h⟩ | ⟨image, _, _, h⟩
    · cases h.symm.trans ht
    · cases h.symm.trans ht
      exact .of_readFrom (Nat.le_refl _) _
  destroyCodeObject c := .only fun _ hs => hs.passed_silent (.destroyCodeObject c)
  lockMemory g x n := .only fun _ hs => hs.passed_silent (.lockMemory g x n)
  unlockMemory x := .only fun _ hs => hs.passed_silent (.unlockMemory x)
  findRegion g := .only fun _ hs => hs.passed_silent (.findRegion g)
  allocate r n := .only fun _ hs => hs.passed_silent (.allocate r n)
  free x := .only fun _ hs => hs.passed_silent (.free x)
  writeMemory x bs := .only fun _ hs => hs.passed_silent (.writeMemory x bs)
  dispatch g q p bs w := .only fun _ hs => hs.passed_silent (.dispatch g q p bs w)
  synchronize g := .only fun _ hs => hs.passed_silent (.synchronize g)
  releaseCompletion c := .only fun _ hs => hs.passed_silent (.releaseCompletion c)

end Watched

end DeviceCode
