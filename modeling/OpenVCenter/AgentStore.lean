import OpenVCenter.Foundations.Digits
import OpenVCenter.Foundations.LexicalPath
import OpenVCenter.Python

set_option relaxedAutoImplicit false
set_option autoImplicit false

/-!
# The agent store

`LocalAgentStore` of `services/agent_store.py`: uploaded binaries under one directory, each under a
key. A key is joined to the directory, resolved, and compared with the directory as text.

## Main definitions

* `OpenVCenter.AbsPath` — an absolute path without dots.
* `OpenVCenter.LocalAgentStore.path` — `_path`.
* `OpenVCenter.LocalAgentStore.touched` — the files an operation on a key opens or removes.
* `OpenVCenter.LocalAgentStore.Contained` — a key leads nowhere outside the store.

## Main results

* `OpenVCenter.contained_iff` — the keys that lead nowhere outside.

## Design

A path is resolved by its spelling: no directory on the way is a symbolic link.
-/

namespace OpenVCenter

open LexicalPath (IsName walk spell Beside)

/-! ## Paths -/

/-- A resolved absolute path: the names from the root on. -/
structure AbsPath where
  names : List (List Char)
  valid : ∀ n ∈ names, IsName '.' n ∧ '/' ∉ n

namespace AbsPath

/-- The path `/`. -/
def top : AbsPath := ⟨[], nofun⟩

/-- `str(path)`. -/
def text (p : AbsPath) : List Char := spell '/' p.names

/-- `(dir / path).resolve()`; an absolute `path` replaces `dir`. -/
def resolve (dir : AbsPath) (path : String) : AbsPath where
  names := walk '.' (if ['/'] <+: path.toList then [] else dir.names) (path.toList.splitOn '/')
  valid n hn := by
    rcases LexicalPath.mem_walk hn with hdir | ⟨hmem, hname⟩
    · split_ifs at hdir
      · exact absurd hdir List.not_mem_nil
      · exact dir.valid n hdir
    · exact ⟨hname, Separated.not_mem_of_mem_splitOn hmem⟩

/-- `p` is `dir`, or `dir` is one of the directories above `p`. -/
def Within (dir p : AbsPath) : Prop := dir.names <+: p.names

/-- Whether a path is within a directory can be decided. -/
instance (dir p : AbsPath) : Decidable (dir.Within p) := inferInstanceAs (Decidable (_ <+: _))

variable {dir p : AbsPath}

/-- The test of `_path` lets a path pass that is within the directory, or beside it. -/
lemma text_prefix_iff : dir.text <+: p.text ↔ dir.Within p ∨ Beside dir.names p.names :=
  LexicalPath.spell_prefix_iff (fun n hn => ⟨(dir.valid n hn).1.1, (dir.valid n hn).2⟩)
    fun n hn => (p.valid n hn).2

/-- A path beside a directory is not within it. -/
lemma not_within_of_beside (h : Beside dir.names p.names) : ¬ dir.Within p := by
  obtain ⟨parent, name, extra, below, hextra, hdir, hp⟩ := h
  unfold Within
  rw [hdir, hp, List.prefix_append_right_inj, List.cons_prefix_cons]
  rintro ⟨hname, -⟩
  exact hextra (by simpa using hname.symm)

end AbsPath

/-! ## The store -/

/-- `AgentStoreError`. -/
structure AgentStoreError where
  message : String

/-- `LocalAgentStore`. -/
structure LocalAgentStore where
  root : AbsPath

/-- `f".{os.getpid()}.tmp"`. -/
def tmpExtension (pid : ℕ) : List Char := '.' :: ((toString (pid : ℤ)).toList ++ ".tmp".toList)

/-- A temporary name is longer by an extension. -/
lemma tmpExtension_length (pid : ℕ) : 2 < (tmpExtension pid).length := by
  have hlength : ".tmp".toList.length = 4 := rfl
  rw [tmpExtension, List.length_cons, List.length_append, hlength]
  omega

/-- The extension has no separator. -/
lemma tmpExtension_sep (pid : ℕ) : '/' ∉ tmpExtension pid := by
  intro h
  rcases List.mem_cons.mp h with h | h
  · exact absurd h (by decide)
  · rcases List.mem_append.mp h with h | h
    · rcases Digits.mem_toString h with hdigit | hsign
      · exact absurd hdigit (by decide)
      · exact absurd hsign (by decide)
    · exact absurd h (by decide)

/-- A name with the extension is a name. -/
lemma valid_tmpName {name : List Char} (hsep : '/' ∉ name) (pid : ℕ) :
    IsName '.' (name ++ tmpExtension pid) ∧ '/' ∉ name ++ tmpExtension pid := by
  have hlength : 2 < (name ++ tmpExtension pid).length := by
    have := tmpExtension_length pid
    rw [List.length_append]
    omega
  refine ⟨⟨?_, ?_, ?_⟩, fun h => (List.mem_append.mp h).elim hsep (tmpExtension_sep pid)⟩ <;>
  · intro heq
    rw [heq] at hlength
    exact absurd hlength (by decide)

/-- `dst.with_suffix(dst.suffix + f".{os.getpid()}.tmp")`: the extension is added to the last name;
the root has none, and raises `ValueError`. -/
def tmpFile (pid : ℕ) (dst : AbsPath) : Option AbsPath :=
  match h : dst.names.getLast? with
  | none => none
  | some name => some {
      names := dst.names.dropLast ++ [name ++ tmpExtension pid]
      valid n hn := by
        rcases List.mem_append.mp hn with hn | hn
        · exact dst.valid n (List.dropLast_subset _ hn)
        · rw [List.mem_singleton.mp hn]
          exact valid_tmpName (dst.valid name (List.mem_of_getLast? h)).2 pid }

/-- The operations of the store. `pid` is the process that writes. -/
inductive StoreOp where
  | putFile (pid : ℕ)
  | openStream
  | delete

/-- The files an operation opens, replaces or removes for the path of its key. -/
def StoreOp.files : StoreOp → AbsPath → List AbsPath
  | .putFile pid, dst =>
    match tmpFile pid dst with
    | some tmp => [tmp, dst]
    | none => []
  | .openStream, path => [path]
  | .delete, path => [path]

namespace LocalAgentStore

variable (store : LocalAgentStore)

/-- `_path`. -/
def path (key : String) : Except AgentStoreError AbsPath :=
  let p := store.root.resolve key
  if store.root.text <+: p.text then .ok p else .error ⟨"path traversal in object key"⟩

/-- The files an operation on a key opens, replaces or removes. -/
def touched (op : StoreOp) (key : String) : List AbsPath :=
  match store.path key with
  | .ok p => op.files p
  | .error _ => []

/-- **A key leads nowhere outside the store**: `_path` raises, or returns the root or a path below
it, and no operation touches a file elsewhere. -/
structure Contained (key : String) : Prop where
  path : ∀ p, store.path key = .ok p → store.root.Within p
  files : ∀ op, ∀ f ∈ store.touched op key, store.root.Within f

end LocalAgentStore

/-! ## Containment -/

section Containment

variable {store : LocalAgentStore} {key : String} {p dst tmp : AbsPath} {pid : ℕ} {op : StoreOp}

/-- A key that is accepted. -/
lemma path_eq_ok : store.path key = .ok p ↔ store.root.resolve key = p ∧
    (store.root.Within p ∨ Beside store.root.names p.names) := by
  unfold LocalAgentStore.path
  dsimp only
  split_ifs with h
  · rw [Except.ok.injEq]
    constructor
    · rintro rfl
      exact ⟨rfl, AbsPath.text_prefix_iff.mp h⟩
    · exact And.left
  · constructor
    · exact nofun
    · rintro ⟨rfl, hp⟩
      exact absurd (AbsPath.text_prefix_iff.mpr hp) h

/-- The temporary file stands in the directory of its target. -/
lemma tmpFile_eq_some (h : tmpFile pid dst = some tmp) : ∃ parent name extra, extra ≠ [] ∧
    dst.names = parent ++ [name] ∧ tmp.names = parent ++ [name ++ extra] := by
  unfold tmpFile at h
  split at h
  · cases h
  · next name hname =>
    rw [Option.some.injEq] at h
    subst h
    refine ⟨dst.names.dropLast, name, tmpExtension pid, List.cons_ne_nil _ _, ?_, rfl⟩
    exact (List.dropLast_append_getLast? name hname).symm

/-- There is one, unless the target is the root. -/
lemma exists_tmpFile (pid : ℕ) (h : dst.names ≠ []) : ∃ tmp, tmpFile pid dst = some tmp := by
  unfold tmpFile
  split
  · next hnone => exact absurd (List.getLast?_eq_none_iff.mp hnone) h
  · exact ⟨_, rfl⟩

/-- Below the root, the temporary file is next to the file it becomes. -/
lemma within_files (hwithin : store.root.Within p) (hne : p.names ≠ store.root.names)
    {f : AbsPath} (hf : f ∈ op.files p) : store.root.Within f := by
  cases op with
  | putFile pid =>
    unfold StoreOp.files at hf
    dsimp only at hf
    split at hf
    · next tmp htmp =>
      rcases List.mem_cons.mp hf with rfl | hf
      · obtain ⟨parent, name, extra, -, hp, hf⟩ := tmpFile_eq_some htmp
        unfold AbsPath.Within at hwithin ⊢
        rw [hp] at hwithin hne
        rcases List.prefix_concat_iff.mp hwithin with heq | hparent
        · exact absurd heq.symm hne
        · rw [hf]
          exact hparent.trans (List.prefix_append _ _)
      · rw [List.mem_singleton.mp hf]
        exact hwithin
    · exact absurd hf List.not_mem_nil
  | openStream =>
    rw [List.mem_singleton.mp hf]
    exact hwithin
  | delete =>
    rw [List.mem_singleton.mp hf]
    exact hwithin

/-- **The keys that lead nowhere outside the store**: they do not lead beside the root, into a
directory whose name goes on where the name of the root ends, nor to the root itself.

**Proof sketch.** A key that resolves beside the root reaches a file beside it, and one that
resolves to the root has its temporary file there. Any other key that is accepted resolves below the
root, and so do the files its operations touch. -/
theorem contained_iff (store : LocalAgentStore) (key : String) : store.Contained key ↔
    ¬ Beside store.root.names (store.root.resolve key).names ∧
      ((store.root.resolve key).names = store.root.names → store.root.names = []) := by
  constructor
  · intro h
    constructor
    · intro hbeside
      exact AbsPath.not_within_of_beside hbeside
        (h.path _ (path_eq_ok.mpr ⟨rfl, Or.inr hbeside⟩))
    · intro hroot
      by_contra hne
      -- the temporary file of the root is beside the root
      have hpath : store.path key = .ok (store.root.resolve key) := by
        refine path_eq_ok.mpr ⟨rfl, Or.inl ?_⟩
        exact List.prefix_rfl.trans (hroot ▸ List.prefix_rfl)
      obtain ⟨tmp, htmp⟩ := exists_tmpFile 0 (hroot ▸ hne)
      have hfile : tmp ∈ store.touched (.putFile 0) key := by
        unfold LocalAgentStore.touched StoreOp.files
        rw [hpath]
        dsimp only
        rw [htmp]
        exact List.mem_cons_self
      obtain ⟨parent, name, extra, hextra, hdst, hnames⟩ := tmpFile_eq_some htmp
      refine AbsPath.not_within_of_beside ⟨parent, name, extra, [], hextra, ?_, hnames⟩
        (h.files _ _ hfile)
      rw [← hroot, hdst]
  · rintro ⟨hbeside, hroot⟩
    have hwithin : ∀ p, store.path key = .ok p → store.root.Within p := by
      intro p hp
      obtain ⟨rfl, hin | hin⟩ := path_eq_ok.mp hp
      · exact hin
      · exact absurd hin hbeside
    refine ⟨hwithin, fun op f hf => ?_⟩
    unfold LocalAgentStore.touched at hf
    split at hf
    · next p hp =>
      by_cases heq : p.names = store.root.names
      · have hnil : store.root.names = [] := hroot ((path_eq_ok.mp hp).1 ▸ heq)
        rw [AbsPath.Within, hnil]
        exact List.nil_prefix
      · exact within_files (hwithin p hp) heq hf
    · exact absurd hf List.not_mem_nil

end Containment

/-- A store under `/srv/store`. -/
def Demo.store : LocalAgentStore := ⟨AbsPath.top.resolve "/srv/store"⟩

/-- A key that leads into the directory `/srv/store-old`. -/
theorem contained_counterexample :
    ¬ ∀ (store : LocalAgentStore) (key : String), store.Contained key := by
  intro h
  have hbeside : Beside Demo.store.root.names
      (Demo.store.root.resolve "../store-old/agent.exe").names :=
    ⟨["srv".toList], "store".toList, "-old".toList, ["agent.exe".toList], by decide,
      by decide +kernel, by decide +kernel⟩
  exact AbsPath.not_within_of_beside hbeside
    ((h Demo.store "../store-old/agent.exe").path _ (path_eq_ok.mpr ⟨rfl, Or.inr hbeside⟩))

end OpenVCenter
