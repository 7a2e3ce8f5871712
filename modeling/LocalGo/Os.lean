import Mathlib.Data.List.AList
import LocalGo.Filepath

/-!
# The file system calls of `SaveStreamToFile`

`storage.SaveStreamToFile` calls `os.MkdirAll`, `os.Create` and `os.Remove`. They are modelled
here as Go runs them on Linux, over a file system of regular files, directories and symbolic
links, which keeps its shape as a structure invariant: every entry sits in a directory, and so
does the working directory (`FileSystem`).

* A path is read by the kernel's walk (`walk`): one element at a time from the root or from the
  working directory, entering directories, taking `..` to the parent of the directory reached,
  and replacing a symbolic link by its target, at most `maxSymlinks` times. A link in last place
  is followed by `os.Stat` and `open(2)` and not by `os.Lstat`, `mkdir(2)` or `unlink(2)`.
* The walk reads no more of the file system than what each location is to it (`Kind`), so
  `walk_mono` (adding directories keeps every walk that succeeded), `walk_unlink` (removing one
  entry leaves a walk as it was, or makes it fail) and `walk_nofollow` (not following the last
  link reaches the same place, or that link) say what the calls below do to later walks.
* `mkdirAll_addsDirs`: `os.MkdirAll` only adds directories, also when it fails part way.
* `create_write`, `remove_after_create_write`: `os.Create` opens where its path leads, following
  every link, and the bytes written go there; `os.Remove` then unlinks the path's own entry, the
  file itself or the link to it.

Permissions, a full disk and whatever else makes a call fail that the tree of files does not
decide are the environment's choice (`SaveEnv`); the text of the operating system's errors is left
out.
-/

namespace LocalGo

/-- What a location holds: a regular file and its content, a directory, or a symbolic link and the
path written in it. -/
inductive FileNode where
  | file (content : List UInt8)
  | dir
  | symlink (target : String)
  deriving DecidableEq

/-- What each location holds. A location is a path from the root with no `.`, `..` or symbolic
link in it, as its list of elements; the root is `[]`. -/
abbrev Entries := AList (fun _ : List String => FileNode)

/-- Writing where no directory was keeps every directory. -/
theorem Entries.lookup_insert_of_dir {entries : Entries} {loc l : List String} (n : FileNode)
    (hprev : entries.lookup loc ≠ some .dir) (h : entries.lookup l = some .dir) :
    (entries.insert loc n).lookup l = some .dir := by
  rwa [AList.lookup_insert_ne fun heq => hprev (by subst heq; exact h)]

/-- Removing what is not a directory keeps every directory. -/
theorem Entries.lookup_erase_of_dir {entries : Entries} {loc l : List String}
    (hprev : entries.lookup loc ≠ some .dir) (h : entries.lookup l = some .dir) :
    (entries.erase loc).lookup l = some .dir := by
  rwa [AList.lookup_erase_ne fun heq => hprev (by subst heq; exact h)]

/-- The file system as the process sees it. -/
@[ext]
structure FileSystem where
  /-- What each location holds. -/
  entries : Entries
  /-- The working directory, where a relative path starts. -/
  cwd : List String
  /-- The root is a directory. -/
  root_isDir : entries.lookup [] = some .dir
  /-- Every entry sits in a directory. -/
  parent_isDir : ∀ loc ∈ entries.keys, entries.lookup loc.dropLast = some .dir
  /-- The working directory is a directory. -/
  cwd_isDir : entries.lookup cwd = some .dir

/-- What a path walk needs to know of a location: a directory to enter, a symbolic link to follow,
or neither (a regular file, or nothing). -/
inductive Kind where
  | dir
  | link (target : String)
  | other
  deriving DecidableEq

namespace FileSystem

variable (fs : FileSystem)

/-- What `loc` is to a path walk. -/
def kind (loc : List String) : Kind :=
  match fs.entries.lookup loc with
  | some .dir => .dir
  | some (.symlink target) => .link target
  | _ => .other

variable {fs}

theorem kind_eq_dir_iff {loc : List String} :
    fs.kind loc = .dir ↔ fs.entries.lookup loc = some .dir := by
  unfold kind
  cases fs.entries.lookup loc with
  | none => simp
  | some n => cases n <;> simp

theorem kind_eq_link_iff {loc : List String} {t : String} :
    fs.kind loc = .link t ↔ fs.entries.lookup loc = some (.symlink t) := by
  unfold kind
  cases fs.entries.lookup loc with
  | none => simp
  | some n => cases n <;> simp

/-- A directory's parent is a directory. -/
theorem lookup_dropLast {loc : List String} (h : fs.entries.lookup loc = some .dir) :
    fs.entries.lookup loc.dropLast = some .dir :=
  fs.parent_isDir loc (AList.mem_keys.1 (AList.lookup_isSome.1 (by simp [h])))

end FileSystem

/-- The elements of `path`, as the kernel reads them between separators. -/
def Filepath.elements (path : String) : List String := Filepath.splitSlash [] path.data

/-- `path` starts at the root. -/
def Filepath.startsAtRoot (path : String) : Bool := decide (path.data.head? = some '/')

/-- Linux's bound on the symbolic links one walk follows (`MAXSYMLINKS`); one more is `ELOOP`. -/
def maxSymlinks : Nat := 40

/-- The kernel's walk over the elements `pending` from the directory `cur`. `onLink cur' pending'`
is the rest of the walk after a symbolic link: the elements of its target, then those still
pending, from the root or from the link's directory. A link in last place is followed only when
`follow`. The result is the location reached; `none` is the walk's error: an element before the
last that is nothing or a regular file (`ENOENT`, `ENOTDIR`), or an empty link. -/
def walkElems (kind : List String → Kind) (follow : Bool)
    (onLink : List String → List String → Option (List String)) :
    List String → List String → Option (List String)
  | cur, [] => some cur
  | cur, e :: rest =>
    if e = "" ∨ e = "." then walkElems kind follow onLink cur rest
    else if e = ".." then walkElems kind follow onLink cur.dropLast rest
    else match kind (cur ++ [e]) with
      | .dir => walkElems kind follow onLink (cur ++ [e]) rest
      | .link target =>
        if rest = [] ∧ follow = false then some (cur ++ [e])
        else if target = "" then none
        else onLink (if Filepath.startsAtRoot target then [] else cur)
          (Filepath.elements target ++ rest)
      | .other => if rest = [] then some (cur ++ [e]) else none

/-- The kernel's path walk, following at most `links` more symbolic links. -/
def walk (kind : List String → Kind) (follow : Bool) :
    Nat → List String → List String → Option (List String)
  | 0 => walkElems kind follow fun _ _ => none
  | links + 1 => walkElems kind follow (walk kind follow links)

section Walk

variable {kind kind' : List String → Kind} {follow : Bool}

/-- Where a walk ends, given a property `P` of the directories it stands on: on one of them, or one
element below one, which is not a link when the last link is followed. -/
theorem walkElems_end (P : List String → Prop) (hroot : P [])
    (hdir : ∀ c e, P c → kind (c ++ [e]) = .dir → P (c ++ [e])) (hup : ∀ c, P c → P c.dropLast)
    {onLink : List String → List String → Option (List String)}
    (hlink : ∀ c ps X, P c → onLink c ps = some X → P X ∨ ∃ c e, P c ∧ X = c ++ [e] ∧
      (follow = true → ∀ t, kind X ≠ .link t))
    (cur ps : List String) {X : List String} (hcur : P cur)
    (h : walkElems kind follow onLink cur ps = some X) :
    P X ∨ ∃ c e, P c ∧ X = c ++ [e] ∧ (follow = true → ∀ t, kind X ≠ .link t) := by
  induction ps generalizing cur with
  | nil => cases h; exact .inl hcur
  | cons e rest ih =>
    simp only [walkElems] at h
    by_cases h₁ : e = "" ∨ e = "."
    · rw [if_pos h₁] at h; exact ih cur hcur h
    rw [if_neg h₁] at h
    by_cases h₂ : e = ".."
    · rw [if_pos h₂] at h; exact ih _ (hup cur hcur) h
    rw [if_neg h₂] at h
    cases hk : kind (cur ++ [e]) with
    | dir => simp only [hk] at h; exact ih _ (hdir cur e hcur hk) h
    | link t =>
      simp only [hk] at h
      split_ifs at h with h₃
      · cases h
        exact .inr ⟨cur, e, hcur, rfl, fun hf => absurd hf (by simp [h₃.2])⟩
      · exact hlink _ _ _ hroot h
      · exact hlink _ _ _ hcur h
    | other =>
      simp only [hk] at h
      split_ifs at h
      cases h
      exact .inr ⟨cur, e, hcur, rfl, fun _ t => by simp [hk]⟩

theorem walk_end (P : List String → Prop) (hroot : P [])
    (hdir : ∀ c e, P c → kind (c ++ [e]) = .dir → P (c ++ [e])) (hup : ∀ c, P c → P c.dropLast)
    (links : Nat) (cur ps : List String) {X : List String} (hcur : P cur)
    (h : walk kind follow links cur ps = some X) :
    P X ∨ ∃ c e, P c ∧ X = c ++ [e] ∧ (follow = true → ∀ t, kind X ≠ .link t) := by
  induction links generalizing cur ps X with
  | zero => exact walkElems_end P hroot hdir hup (by simp) cur ps hcur h
  | succ links ih =>
    exact walkElems_end P hroot hdir hup (fun c ps _ hc h => ih c ps hc h) cur ps hcur h

/-- Directories added where a walk found nothing keep every walk that succeeded. -/
theorem walkElems_mono (hk : ∀ loc, kind' loc = kind loc ∨ kind loc = .other ∧ kind' loc = .dir)
    {onLink onLink' : List String → List String → Option (List String)}
    (hlink : ∀ c ps X, onLink c ps = some X → onLink' c ps = some X)
    (cur ps : List String) {X : List String} (h : walkElems kind follow onLink cur ps = some X) :
    walkElems kind' follow onLink' cur ps = some X := by
  induction ps generalizing cur with
  | nil => exact h
  | cons e rest ih =>
    simp only [walkElems] at h ⊢
    by_cases h₁ : e = "" ∨ e = "."
    · rw [if_pos h₁] at h ⊢; exact ih cur h
    rw [if_neg h₁] at h ⊢
    by_cases h₂ : e = ".."
    · rw [if_pos h₂] at h ⊢; exact ih _ h
    rw [if_neg h₂] at h ⊢
    rcases hk (cur ++ [e]) with hk | ⟨hother, hk⟩
    · rw [hk]
      cases hkp : kind (cur ++ [e]) <;> simp only [hkp] at h ⊢
      · exact ih _ h
      · split_ifs at h ⊢ <;> first | exact h | exact hlink _ _ _ h
      · exact h
    · simp only [hk, hother] at h ⊢
      split_ifs at h with hr
      cases h; subst hr; rfl

theorem walk_mono (hk : ∀ loc, kind' loc = kind loc ∨ kind loc = .other ∧ kind' loc = .dir)
    (links : Nat) (cur ps : List String) {X : List String}
    (h : walk kind follow links cur ps = some X) : walk kind' follow links cur ps = some X := by
  induction links generalizing cur ps X with
  | zero => exact walkElems_mono hk (fun _ _ _ h => h) cur ps h
  | succ links ih => exact walkElems_mono hk (fun c ps _ h => ih c ps h) cur ps h

/-- Removing the entry at `L` leaves a walk that does not follow its last link as it was, or makes
it fail: the walk reads `L` only on its way through, or in last place without following it. -/
theorem walkElems_unlink {L : List String} (hk : ∀ loc, loc ≠ L → kind' loc = kind loc)
    (hL : kind' L = .other) {onLink onLink' : List String → List String → Option (List String)}
    (hlink : ∀ c ps, onLink' c ps = onLink c ps ∨ onLink' c ps = none) (cur ps : List String) :
    walkElems kind' false onLink' cur ps = walkElems kind false onLink cur ps ∨
      walkElems kind' false onLink' cur ps = none := by
  induction ps generalizing cur with
  | nil => exact .inl rfl
  | cons e rest ih =>
    simp only [walkElems]
    by_cases h₁ : e = "" ∨ e = "."
    · simp only [if_pos h₁]; exact ih cur
    simp only [if_neg h₁]
    by_cases h₂ : e = ".."
    · simp only [if_pos h₂]; exact ih _
    simp only [if_neg h₂]
    by_cases hp : cur ++ [e] = L
    · rw [hp, hL]
      rcases rest with _ | ⟨e', rest⟩
      · left; cases kind L <;> simp [walkElems]
      · exact .inr (by simp)
    · rw [hk _ hp]
      split
      · exact ih _
      · split_ifs <;> first | exact .inl rfl | exact hlink _ _
      · exact .inl rfl

theorem walk_unlink {L : List String} (hk : ∀ loc, loc ≠ L → kind' loc = kind loc)
    (hL : kind' L = .other) (links : Nat) (cur ps : List String) :
    walk kind' false links cur ps = walk kind false links cur ps ∨
      walk kind' false links cur ps = none := by
  induction links generalizing cur ps with
  | zero => exact walkElems_unlink hk hL (fun _ _ => .inl rfl) cur ps
  | succ links ih => exact walkElems_unlink hk hL ih cur ps

/-- A walk that follows its last link and succeeds also succeeds without following it, at the
same place or at that link. -/
theorem walkElems_nofollow {onLinkT onLinkF : List String → List String → Option (List String)}
    (hlink : ∀ c ps T, onLinkT c ps = some T →
      ∃ L, onLinkF c ps = some L ∧ (L = T ∨ ∃ t, kind L = .link t))
    (cur ps : List String) {T : List String} (h : walkElems kind true onLinkT cur ps = some T) :
    ∃ L, walkElems kind false onLinkF cur ps = some L ∧ (L = T ∨ ∃ t, kind L = .link t) := by
  induction ps generalizing cur with
  | nil => exact ⟨cur, rfl, .inl (Option.some_inj.1 h)⟩
  | cons e rest ih =>
    simp only [walkElems] at h ⊢
    by_cases h₁ : e = "" ∨ e = "."
    · rw [if_pos h₁] at h ⊢; exact ih cur h
    rw [if_neg h₁] at h ⊢
    by_cases h₂ : e = ".."
    · rw [if_pos h₂] at h ⊢; exact ih _ h
    rw [if_neg h₂] at h ⊢
    cases hk : kind (cur ++ [e]) with
    | dir => simp only [hk] at h ⊢; exact ih _ h
    | link t =>
      simp only [hk] at h ⊢
      rcases rest with _ | ⟨e', rest⟩
      · exact ⟨_, by simp, .inr ⟨t, hk⟩⟩
      · simp only [reduceCtorEq, false_and, if_false] at h ⊢
        split_ifs at h ⊢ <;> exact hlink _ _ _ h
    | other => simp only [hk] at h ⊢; exact ⟨T, h, .inl rfl⟩

theorem walk_nofollow (links : Nat) (cur ps : List String) {T : List String}
    (h : walk kind true links cur ps = some T) :
    ∃ L, walk kind false links cur ps = some L ∧ (L = T ∨ ∃ t, kind L = .link t) := by
  induction links generalizing cur ps T with
  | zero => exact walkElems_nofollow (by simp) cur ps h
  | succ links ih => exact walkElems_nofollow (fun c ps _ h => ih c ps h) cur ps h

end Walk


/-- What the operating system decides beyond the tree of files, during one `SaveStreamToFile`. -/
structure SaveEnv where
  /-- Whether `mkdir(2)` may make a directory at a location: permissions, a read-only or full file
  system. -/
  mkdirOk : List String → Bool
  /-- Whether `open(2)` in `os.Create` may create or truncate the file. -/
  createOk : Bool
  /-- Whether `unlink(2)` in `os.Remove` may remove the entry. -/
  removeOk : Bool

namespace FileSystem

variable (fs : FileSystem)

/-- Where `path` leads, the link in last place followed when `follow`. -/
def walkPath (follow : Bool) (path : String) : Option (List String) :=
  walk fs.kind follow maxSymlinks (if Filepath.startsAtRoot path then [] else fs.cwd)
    (Filepath.elements path)

/-- `os.Stat(path)`: what `path` names, its links followed; `none` for an error. -/
def stat (path : String) : Option FileNode := (fs.walkPath true path).bind fs.entries.lookup

/-- `os.Lstat(path)`: what `path` names, a link in last place not followed. -/
def lstat (path : String) : Option FileNode := (fs.walkPath false path).bind fs.entries.lookup

variable {fs}

/-- A walk ends on a directory, or one element below one; when it follows its last link, not on a
link. -/
theorem walkPath_end {follow : Bool} {path : String} {X : List String}
    (h : fs.walkPath follow path = some X) :
    fs.entries.lookup X = some .dir ∨
      fs.entries.lookup X.dropLast = some .dir ∧ (follow = true → ∀ t, fs.kind X ≠ .link t) := by
  rcases walk_end (fun c => fs.entries.lookup c = some .dir) fs.root_isDir
      (fun _ _ _ hk => kind_eq_dir_iff.1 hk) (fun _ => lookup_dropLast) maxSymlinks _ _
      (by cases Filepath.startsAtRoot path <;> simp [fs.root_isDir, fs.cwd_isDir]) h with h | ⟨c, e, hc, rfl, hl⟩
  · exact .inl h
  · exact .inr ⟨by rw [List.dropLast_concat]; exact hc, hl⟩

/-- Where a walk ends, when that is not a directory, is in a directory. -/
theorem lookup_dropLast_of_walkPath {follow : Bool} {path : String} {X : List String}
    (h : fs.walkPath follow path = some X) (hX : fs.entries.lookup X ≠ some .dir) :
    fs.entries.lookup X.dropLast = some .dir :=
  ((walkPath_end h).resolve_left hX).1

/-- A walk that follows its last link does not end on a link. -/
theorem kind_ne_link_of_walkPath {path : String} {X : List String}
    (h : fs.walkPath true path = some X) (t : String) : fs.kind X ≠ .link t := by
  rcases walkPath_end h with h | ⟨-, hl⟩
  · rw [kind_eq_dir_iff.2 h]; exact Kind.noConfusion
  · exact hl rfl t

variable (fs)

/-- `fs` with `n` at `loc`, where no directory was, in the directory `loc.dropLast`. -/
def put (loc : List String) (n : FileNode) (hparent : fs.entries.lookup loc.dropLast = some .dir)
    (hprev : fs.entries.lookup loc ≠ some .dir) : FileSystem where
  entries := fs.entries.insert loc n
  cwd := fs.cwd
  root_isDir := Entries.lookup_insert_of_dir n hprev fs.root_isDir
  parent_isDir l hl := by
    rcases (AList.mem_insert _).1 (AList.mem_keys.2 hl) with rfl | hl
    · exact Entries.lookup_insert_of_dir n hprev hparent
    · exact Entries.lookup_insert_of_dir n hprev (fs.parent_isDir l (AList.mem_keys.1 hl))
  cwd_isDir := Entries.lookup_insert_of_dir n hprev fs.cwd_isDir

/-- `fs` without the entry at `loc`, which is not a directory. -/
def unlink (loc : List String) (hprev : fs.entries.lookup loc ≠ some .dir) : FileSystem where
  entries := fs.entries.erase loc
  cwd := fs.cwd
  root_isDir := Entries.lookup_erase_of_dir hprev fs.root_isDir
  parent_isDir l hl := Entries.lookup_erase_of_dir hprev
    (fs.parent_isDir l (AList.mem_keys.1 (AList.mem_erase.1 (AList.mem_keys.2 hl)).2))
  cwd_isDir := Entries.lookup_erase_of_dir hprev fs.cwd_isDir

/-- `os.Mkdir(path, perm)`, that is `mkdir(2)`: a directory where `path` leads, a link in last place
not followed, when nothing is there and the system allows it; `none` for an error. A trailing
separator, which `mkdir(2)` accepts after the directory it makes, is read here as an element to
enter; `os.MkdirAll` in `SaveStreamToFile` only gets paths that `filepath.Dir` cleaned, and their
parents, which have none. -/
def mkdir (env : SaveEnv) (path : String) : Option FileSystem :=
  match h : fs.walkPath false path with
  | some loc =>
    if hfree : fs.entries.lookup loc = none ∧ env.mkdirOk loc = true then
      some (fs.put loc .dir (lookup_dropLast_of_walkPath h (by simp [hfree.1]))
        (by simp [hfree.1]))
    else none
  | none => none

/-- `path[:i]` in `os.MkdirAll`: `path` without its trailing separators, its last element and the
separator before that. -/
def mkdirAllParent (path : String) : String :=
  ⟨(((path.data.reverse.dropWhile (· = '/')).dropWhile (· ≠ '/')).drop 1).reverse⟩

theorem length_mkdirAllParent_lt {path : String} (h : mkdirAllParent path ≠ "") :
    (mkdirAllParent path).length < path.length := by
  unfold mkdirAllParent at h ⊢
  generalize hx : (path.data.reverse.dropWhile (· = '/')).dropWhile (· ≠ '/') = x at h ⊢
  have hsuf : x.length ≤ path.data.length := by
    rw [← hx, ← List.length_reverse path.data]
    exact ((List.dropWhile_suffix _).trans (List.dropWhile_suffix _)).length_le
  have hne : ¬x.length ≤ 1 := fun h' => h (by rw [List.drop_eq_nil_of_le h']; rfl)
  simp only [String.length, List.length_reverse, List.length_drop]
  omega

/-- `os.MkdirAll(path, perm)`: the file system afterwards, and whether it returned `nil`. It makes
the parent first, then `path` with `os.Mkdir`, and counts a failed `os.Mkdir` as done when `path`
then is a directory. -/
def mkdirAll (env : SaveEnv) (path : String) : FileSystem × Bool :=
  match fs.stat path with
  | some .dir => (fs, true)
  | some _ => (fs, false)
  | none =>
    let parent : FileSystem × Bool :=
      if mkdirAllParent path ≠ "" then mkdirAll env (mkdirAllParent path) else (fs, true)
    if parent.2 = false then parent
    else match parent.1.mkdir env path with
      | some fs' => (fs', true)
      | none => (parent.1, decide (parent.1.lstat path = some .dir))
termination_by path.length
decreasing_by exact length_mkdirAllParent_lt ‹_›

/-- `os.Create(name)`: `open(2)` with `O_CREAT|O_TRUNC` of where `name` leads, its links followed:
an empty regular file there, made or truncated, and its location; `none` for an error, among them
a directory (`EISDIR`). -/
def create (env : SaveEnv) (name : String) : Option (List String × FileSystem) :=
  match h : fs.walkPath true name with
  | some loc =>
    if hok : fs.entries.lookup loc ≠ some .dir ∧ env.createOk = true then
      some (loc, fs.put loc (.file []) (lookup_dropLast_of_walkPath h hok.1) hok.1)
    else none
  | none => none

/-- The regular file at `loc` once `bytes` were written to it from its start; anything else is left
as it was. -/
def write (loc : List String) (bytes : List UInt8) : FileSystem :=
  match h : fs.entries.lookup loc with
  | some (.file _) =>
    fs.put loc (.file bytes)
      (fs.parent_isDir loc (AList.mem_keys.1 (AList.lookup_isSome.1 (by simp [h]))))
      (by simp [h])
  | _ => fs

/-- `os.Remove(name)`: `unlink(2)` of what `name`'s last element names, a symbolic link itself
rather than its target; `none` for an error. `os.Remove` falls back to `rmdir(2)` when `unlink(2)`
fails, which only helps on a directory; `SaveStreamToFile` calls it on the path it has just opened
as a regular file, so the fallback is left out and a directory is an error here. -/
def remove (env : SaveEnv) (name : String) : Option FileSystem :=
  match fs.walkPath false name with
  | some loc =>
    if h : (fs.entries.lookup loc).isSome ∧ fs.entries.lookup loc ≠ some .dir ∧
        env.removeOk = true then
      some (fs.unlink loc h.2.1)
    else none
  | none => none

variable {fs}

@[simp]
theorem entries_put {loc : List String} {n : FileNode} {hparent hprev} :
    (fs.put loc n hparent hprev).entries = fs.entries.insert loc n := rfl

@[simp]
theorem cwd_put {loc : List String} {n : FileNode} {hparent hprev} :
    (fs.put loc n hparent hprev).cwd = fs.cwd := rfl

@[simp]
theorem entries_unlink {loc : List String} {hprev} :
    (fs.unlink loc hprev).entries = fs.entries.erase loc := rfl

@[simp]
theorem cwd_unlink {loc : List String} {hprev} : (fs.unlink loc hprev).cwd = fs.cwd := rfl

end FileSystem

namespace FileSystem

/-- `fs'` is `fs` with directories added where nothing was. -/
def AddsDirs (fs fs' : FileSystem) : Prop :=
  fs'.cwd = fs.cwd ∧ ∀ loc, fs'.entries.lookup loc = fs.entries.lookup loc ∨
    fs.entries.lookup loc = none ∧ fs'.entries.lookup loc = some .dir

section Spec

variable {fs fs' fs'' : FileSystem}

theorem AddsDirs.refl (fs : FileSystem) : fs.AddsDirs fs := ⟨rfl, fun _ => .inl rfl⟩

theorem AddsDirs.trans (h₁ : fs.AddsDirs fs') (h₂ : fs'.AddsDirs fs'') : fs.AddsDirs fs'' := by
  refine ⟨h₂.1.trans h₁.1, fun loc => ?_⟩
  rcases h₁.2 loc with e₁ | ⟨n₁, d₂⟩ <;> rcases h₂.2 loc with e₂ | ⟨n₂, d₃⟩
  · exact .inl (e₂.trans e₁)
  · exact .inr ⟨by rwa [← e₁], d₃⟩
  · exact .inr ⟨n₁, e₂.trans d₂⟩
  · simp [d₂] at n₂

/-- Each location stays what it was to a walk, or turns from nothing into a directory. -/
theorem AddsDirs.kind (h : fs.AddsDirs fs') (loc : List String) :
    fs'.kind loc = fs.kind loc ∨ fs.kind loc = .other ∧ fs'.kind loc = .dir := by
  rcases h.2 loc with e | ⟨n, d⟩
  · exact .inl (by simp only [FileSystem.kind, e])
  · exact .inr ⟨by simp [FileSystem.kind, n], by simp [FileSystem.kind, d]⟩

/-- Every walk that succeeded before directories were added succeeds the same way. -/
theorem AddsDirs.walkPath (h : fs.AddsDirs fs') {follow : Bool} {path : String}
    {X : List String} (hw : fs.walkPath follow path = some X) :
    fs'.walkPath follow path = some X := by
  unfold FileSystem.walkPath at hw ⊢
  rw [h.1]
  exact walk_mono h.kind _ _ _ hw

/-- What `os.Lstat` found is still there once directories were added. -/
theorem AddsDirs.lstat (h : fs.AddsDirs fs') {path : String} {n : FileNode}
    (hn : fs.lstat path = some n) : fs'.lstat path = some n := by
  obtain ⟨X, hX, hn⟩ := Option.bind_eq_some.1 hn
  rcases h.2 X with e | ⟨n', -⟩
  · exact Option.bind_eq_some.2 ⟨X, h.walkPath hX, e.trans hn⟩
  · simp [n'] at hn

theorem mkdir_addsDirs {env : SaveEnv} {path : String} (h : fs.mkdir env path = some fs') :
    fs.AddsDirs fs' := by
  unfold mkdir at h
  split at h
  · rename_i loc _
    split_ifs at h with hfree
    cases h
    refine ⟨rfl, fun l => ?_⟩
    by_cases hl : l = loc
    · subst hl; exact .inr ⟨hfree.1, by simp⟩
    · exact .inl (by simp [AList.lookup_insert_ne hl])
  · cases h

/-- `os.MkdirAll` only adds directories, also when it fails part way. -/
theorem mkdirAll_addsDirs (fs : FileSystem) (env : SaveEnv) (path : String) :
    fs.AddsDirs (fs.mkdirAll env path).1 := by
  obtain ⟨n, hn⟩ : ∃ n, path.length = n := ⟨_, rfl⟩
  induction n using Nat.strong_induction_on generalizing path with
  | _ n ih =>
    rw [mkdirAll]
    split
    · exact .refl fs
    · exact .refl fs
    · generalize hp : (if mkdirAllParent path ≠ "" then fs.mkdirAll env (mkdirAllParent path)
        else (fs, true)) = parent
      have hparent : fs.AddsDirs parent.1 := by
        subst hp
        split
        · exact ih _ (hn ▸ length_mkdirAllParent_lt ‹_›) _ rfl
        · exact .refl fs
      dsimp only
      split
      · exact hparent
      · split
        · exact hparent.trans (mkdir_addsDirs ‹_›)
        · exact hparent

/-- Where a walk that follows its last link ends, when that is no directory, is nothing or a
regular file. -/
theorem kind_eq_other_of_walkPath {path : String} {X : List String}
    (hw : fs.walkPath true path = some X) (hX : fs.entries.lookup X ≠ some .dir) :
    fs.kind X = .other := by
  cases hk : fs.kind X with
  | dir => exact absurd (kind_eq_dir_iff.1 hk) hX
  | link t => exact absurd hk (kind_ne_link_of_walkPath hw t)
  | other => rfl

/-- The regular file put at `loc`, once `bytes` were written to it. -/
theorem write_put {loc : List String} {c : List UInt8} {hparent hprev} (bytes : List UInt8) :
    ((fs.put loc (.file c) hparent hprev).write loc bytes).entries =
      fs.entries.insert loc (.file bytes) ∧
    ((fs.put loc (.file c) hparent hprev).write loc bytes).cwd = fs.cwd := by
  unfold write
  split
  · simp
  · rename_i hne; exact absurd (by simp) (hne c)

/-- A regular file written where a walk finds nothing to enter or follow changes no walk. -/
theorem walkPath_of_insert_file {T : List String} {c : List UInt8}
    (he : fs'.entries = fs.entries.insert T (.file c)) (hc : fs'.cwd = fs.cwd)
    (hT : fs.kind T = .other) : fs'.walkPath = fs.walkPath := by
  have hk : fs'.kind = fs.kind := by
    funext l
    by_cases hl : l = T
    · subst hl; rw [hT]; simp [FileSystem.kind, he]
    · simp only [FileSystem.kind, he, AList.lookup_insert_ne hl]
  funext follow path
  simp only [FileSystem.walkPath, hk, hc]

/-- `os.Create` followed by a write of `bytes`: the walk of `name` following every link ends on
`T`, which is no directory and now holds `bytes`; every walk goes as before. -/
theorem create_write {env : SaveEnv} {name : String} {T : List String} (bytes : List UInt8)
    (h : fs.create env name = some (T, fs')) :
    fs.walkPath true name = some T ∧ fs.entries.lookup T ≠ some .dir ∧
      (fs'.write T bytes).entries = fs.entries.insert T (.file bytes) ∧
      (fs'.write T bytes).walkPath = fs.walkPath := by
  unfold create at h
  split at h
  · rename_i hw
    split_ifs at h with hok
    cases h
    obtain ⟨he, hc⟩ := write_put bytes
    exact ⟨hw, hok.1, he, walkPath_of_insert_file he hc (kind_eq_other_of_walkPath hw hok.1)⟩
  · cases h

/-- The walk of `name` not following its last link ends where the one following it does, or on
a link. -/
theorem walkPath_nofollow {path : String} {T : List String} (h : fs.walkPath true path = some T) :
    ∃ L, fs.walkPath false path = some L ∧ (L = T ∨ ∃ t, fs.kind L = .link t) :=
  walk_nofollow _ _ _ h

/-- `os.Remove(name)` of an entry that is no directory unlinks it when the system allows it. -/
theorem remove_eq {env : SaveEnv} {name : String} {L : List String}
    (hw : fs.walkPath false name = some L) (hL : (fs.entries.lookup L).isSome)
    (hd : fs.entries.lookup L ≠ some .dir) :
    fs.remove env name = if env.removeOk then some (fs.unlink L hd) else none := by
  unfold remove
  rw [hw]
  dsimp only
  by_cases hr : env.removeOk = true <;> simp [hL, hd, hr]

/-- Once the entry `os.Lstat(name)` walked to is unlinked, `os.Lstat(name)` finds nothing. -/
theorem lstat_unlink {name : String} {L : List String} (hw : fs.walkPath false name = some L)
    (hd : fs.entries.lookup L ≠ some .dir) : (fs.unlink L hd).lstat name = none := by
  have hk : ∀ loc, loc ≠ L → (fs.unlink L hd).kind loc = fs.kind loc := fun loc h => by
    simp only [FileSystem.kind, entries_unlink, AList.lookup_erase_ne h]
  have hL : (fs.unlink L hd).kind L = .other := by simp [FileSystem.kind]
  unfold lstat walkPath at *
  rcases walk_unlink hk hL maxSymlinks (if Filepath.startsAtRoot name then [] else fs.cwd)
    (Filepath.elements name) with h | h
  · rw [cwd_unlink, h, hw]; simp
  · rw [cwd_unlink, h]; rfl


/-- After `os.Create(name)` opened `T` and `bytes` were written to it, `os.Remove(name)` unlinks
the entry `os.Lstat(name)` walks to, which is `T` itself or a link and so no directory, when the
system allows it. -/
theorem remove_after_create_write {env : SaveEnv} {name : String} {T : List String}
    (bytes : List UInt8) (h : fs.create env name = some (T, fs')) :
    ∃ L, fs.walkPath false name = some L ∧
      (fs.entries.insert T (.file bytes)).lookup L ≠ some .dir ∧
      (env.removeOk = true → ∃ fr, (fs'.write T bytes).remove env name = some fr ∧
        fr.entries = (fs.entries.insert T (.file bytes)).erase L ∧ fr.lstat name = none) ∧
      (env.removeOk = false → (fs'.write T bytes).remove env name = none) := by
  obtain ⟨hwT, hTd, he, hwalk⟩ := create_write bytes h
  obtain ⟨L, hwL, hLT⟩ := walkPath_nofollow hwT
  have hkT := kind_eq_other_of_walkPath hwT hTd
  -- after the write, `L` holds the bytes written or is the link it was before
  obtain ⟨n, hn, hnd⟩ : ∃ n, (fs.entries.insert T (.file bytes)).lookup L = some n ∧ n ≠ .dir := by
    rcases hLT with rfl | ⟨t, ht⟩
    · exact ⟨.file bytes, AList.lookup_insert _, nofun⟩
    · have hne : L ≠ T := fun heq => by rw [heq, hkT] at ht; cases ht
      exact ⟨.symlink t, by rw [AList.lookup_insert_ne hne]; exact kind_eq_link_iff.1 ht, nofun⟩
  have hsome : ((fs'.write T bytes).entries.lookup L).isSome := by simp [he, hn]
  have hnd' : (fs'.write T bytes).entries.lookup L ≠ some .dir := by simp [he, hn, hnd]
  have hwL' : (fs'.write T bytes).walkPath false name = some L := by rw [hwalk]; exact hwL
  refine ⟨L, hwL, he ▸ hnd', fun hr => ?_, fun hr => ?_⟩
  · exact ⟨_, by rw [remove_eq hwL' hsome hnd', if_pos hr], by simp [he], lstat_unlink hwL' hnd'⟩
  · rw [remove_eq hwL' hsome hnd']; simp [hr]

end Spec

end FileSystem

end LocalGo
