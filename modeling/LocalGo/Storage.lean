import LocalGo.Sequential
import LocalGo.Os

/-!
# The storage sink

`storage.SaveStreamToFile(stream, filePath, onProgress)` makes the parent directory with
`EnsureDirExists`, that is `os.MkdirAll`; opens the destination with `os.Create`, which follows a
symbolic link and creates or truncates the file it leads to; copies the stream into it with
`io.Copy`; and on a copy error removes the destination with `os.Remove`, which removes a symbolic
link itself rather than its target. The file system and those calls are `LocalGo.Os`; the
progress callback only logs, and is left out.

* `saveStreamToFile_of_stream_fails`: a stream that fails leaves an error. The directories
  `os.MkdirAll` made stay, and besides them only the destination's own entry and the file it
  leads to change. Once the copy has started, nothing is left at the destination when
  `os.Remove` succeeds, whatever was there before, and the file a symbolic link led to keeps the
  bytes copied.
* `upload_saves_outside_download_dir`: `UploadHandlerV2` saves to `filepath.Join(DownloadDir,
  FileName)` with the name the peer declared, so `..` elements leave the download directory.
-/

namespace LocalGo

namespace Filepath

/-- `filepath.Dir(path)`: everything up to the last separator, cleaned. -/
def dir (path : String) : String :=
  clean (String.mk (path.data.reverse.dropWhile (· ≠ '/')).reverse)

/-- `path` is `dir` or lies below it, after cleaning: `Clean(path)` is `Clean(dir)` or starts with
`Clean(dir)` followed by a separator. -/
def Within (dir path : String) : Prop :=
  clean path = clean dir ∨ (clean dir ++ "/").data.isPrefixOf (clean path).data = true

instance (dir path : String) : Decidable (Within dir path) :=
  inferInstanceAs (Decidable (_ ∨ _))

end Filepath

/-- A request body as `io.Copy` reads it: the chunks it returns, then the end of the stream or a
read error. -/
structure Stream where
  chunks : List (List UInt8)
  /-- The read after the last chunk returns an error rather than `io.EOF`. -/
  fails : Bool
  deriving DecidableEq

/-- `storage.EnsureDirExists(path)`: `os.MkdirAll(path, 0755)`, and the message of the error it
returns, without the operating system's error it wraps. -/
def ensureDirExists (fs : FileSystem) (env : SaveEnv) (path : String) :
    FileSystem × Option String :=
  ((fs.mkdirAll env path).1,
    if (fs.mkdirAll env path).2 then none else some ("failed to create directory " ++ path))

/-- `storage.SaveStreamToFile(stream, filePath, onProgress)`: the file system afterwards and the
message of the error it returns, `none` for `nil`. A failed `os.Remove` is only logged. -/
def saveStreamToFile (fs : FileSystem) (stream : Stream) (filePath : String) (env : SaveEnv) :
    FileSystem × Option String :=
  match ensureDirExists fs env (Filepath.dir filePath) with
  | (fs, some err) => (fs, some err)
  | (fs, none) =>
    match fs.create env filePath with
    | none => (fs, some ("failed to create file " ++ filePath))
    | some (loc, fs) =>
      let fs := fs.write loc stream.chunks.flatten
      if stream.fails then
        ((fs.remove env filePath).getD fs, some ("failed to copy stream to file " ++ filePath))
      else (fs, none)

/-- Two messages that differ in their first `n` characters differ whatever follows. -/
theorem append_ne_of_take_ne {a b : String} (s t : String) (n : Nat)
    (ha : n ≤ a.length) (hb : n ≤ b.length) (h : a.data.take n ≠ b.data.take n) :
    a ++ s ≠ b ++ t := fun heq => h <| by
  have := congrArg (fun u : String => u.data.take n) heq
  simpa [List.take_append_of_le_length ha, List.take_append_of_le_length hb] using this

/-- What `SaveStreamToFile` does with a stream that fails, `fs₁` being what `os.MkdirAll` left:
`os.MkdirAll` or `os.Create` failed, and it returns `fs₁` with another error than the copy's; or
`os.Create` opened `T`, where the destination leads, the bytes read were written to `T`, and
`os.Remove` unlinked `L`, the destination's own entry, if the system let it. -/
theorem saveStreamToFile_cases {fs fs₁ : FileSystem} {stream : Stream} {filePath : String}
    {env : SaveEnv} (hfail : stream.fails = true)
    (h₁ : (fs.mkdirAll env (Filepath.dir filePath)).1 = fs₁) :
    ((saveStreamToFile fs stream filePath env).1 = fs₁ ∧
      (saveStreamToFile fs stream filePath env).2.isSome ∧
      (saveStreamToFile fs stream filePath env).2 ≠
        some ("failed to copy stream to file " ++ filePath)) ∨
    ((saveStreamToFile fs stream filePath env).2 =
        some ("failed to copy stream to file " ++ filePath) ∧
      ∃ T L, fs₁.walkPath true filePath = some T ∧ fs₁.walkPath false filePath = some L ∧
        fs₁.entries.lookup T ≠ some .dir ∧
        (fs₁.entries.insert T (.file stream.chunks.flatten)).lookup L ≠ some .dir ∧
        (env.removeOk = true →
          (saveStreamToFile fs stream filePath env).1.entries =
            (fs₁.entries.insert T (.file stream.chunks.flatten)).erase L ∧
          (saveStreamToFile fs stream filePath env).1.lstat filePath = none) ∧
        (env.removeOk = false →
          (saveStreamToFile fs stream filePath env).1.entries =
            fs₁.entries.insert T (.file stream.chunks.flatten) ∧
          (saveStreamToFile fs stream filePath env).1.walkPath true filePath = some T)) := by
  unfold saveStreamToFile ensureDirExists
  generalize fs.mkdirAll env (Filepath.dir filePath) = r at h₁ ⊢
  obtain ⟨fs₁', ok⟩ := r
  dsimp only at h₁ ⊢
  subst h₁
  cases ok with
  | false =>
    refine .inl ⟨rfl, rfl, ?_⟩
    simpa using append_ne_of_take_ne (Filepath.dir filePath) filePath 12 (by decide) (by decide)
      (by decide)
  | true =>
    simp only [↓reduceIte]
    cases hc : fs₁'.create env filePath with
    | none =>
      refine .inl ⟨rfl, rfl, ?_⟩
      simpa using append_ne_of_take_ne filePath filePath 12 (by decide) (by decide) (by decide)
    | some p =>
      obtain ⟨T, fc⟩ := p
      obtain ⟨hwT, hTd, he, hwalk⟩ := FileSystem.create_write stream.chunks.flatten hc
      obtain ⟨L, hwL, hLd, hrm, hrm'⟩ :=
        FileSystem.remove_after_create_write stream.chunks.flatten hc
      refine .inr ⟨by simp [hfail], T, L, hwT, hwL, hTd, hLd, fun hr => ?_, fun hr => ?_⟩
      · obtain ⟨fr, hfr, hfre, hfrl⟩ := hrm hr
        simp only [hfail, if_true, hfr, Option.getD_some]
        exact ⟨hfre, hfrl⟩
      · simp only [hfail, if_true, hrm' hr, Option.getD_none]
        exact ⟨he, by rw [hwalk]; exact hwT⟩

/-- The home directory `/home/user`, the working directory, with a file `.profile`, and
`Downloads` with a file `notes.txt` and a symbolic link `profile` to `../.profile`. -/
def sampleHome : FileSystem where
  entries := ((((((((∅ : Entries).insert [] .dir).insert ["home"] .dir).insert ["home", "user"]
    .dir).insert ["home", "user", ".profile"] (.file [111, 108, 100])).insert
    ["home", "user", "Downloads"] .dir).insert ["home", "user", "Downloads", "notes.txt"]
    (.file [111, 108, 100])).insert ["home", "user", "Downloads", "profile"]
    (.symlink "../.profile"))
  cwd := ["home", "user"]
  root_isDir := by decide
  parent_isDir := by decide
  cwd_isDir := by decide

/-- An operating system that allows every call. -/
def allowAll : SaveEnv := ⟨fun _ => true, true, true⟩

/-- A stream that breaks after its first chunk. -/
def brokenStream : Stream := ⟨[[110, 101, 119]], true⟩

/-- A symbolic link at the destination: `os.Create` truncates the file it leads to, the bytes read
before the error stay there, and `os.Remove` removes the link. -/
example :
    (saveStreamToFile sampleHome brokenStream "/home/user/Downloads/profile" allowAll).1.lstat
        "/home/user/Downloads/profile" = none ∧
      (saveStreamToFile sampleHome brokenStream "/home/user/Downloads/profile" allowAll).1.stat
        "/home/user/.profile" = some (.file [110, 101, 119]) := by
  rw [saveStreamToFile, ensureDirExists, FileSystem.mkdirAll]
  decide

/-- A `/prepare-upload` whose sender declares a file as `../.bashrc`, then the upload of that
file with the session ID and token it was given. -/
def dotdotUpload : Server × Pc :=
  handle sampleConfig
    (handle sampleConfig .empty .prepareUpload
      (prepareUploadRequest (AList.singleton "f1" ⟨"", "../.bashrc", 12, "text/plain"⟩))
      sampleOracle).1
    .upload (uploadRequest uuidA.text "f1" uuidB.text) sampleOracle

/-- `UploadHandlerV2` answers the upload of `dotdotUpload` with `200` and writes the file to
`/home/user/.bashrc`, outside the download directory `/home/user/Downloads`. -/
theorem upload_saves_outside_download_dir :
    dotdotUpload.2 = .done ⟨200, .null⟩ ∧
      dotdotUpload.1.sink.map SinkWrite.path = ["/home/user/.bashrc"] ∧
      ¬Filepath.Within sampleConfig.downloadDir "/home/user/.bashrc" := by
  decide

end LocalGo
