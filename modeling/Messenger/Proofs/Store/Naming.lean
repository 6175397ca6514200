import Mathlib.Data.String.Basic
import Messenger.Proofs.Store.Filing
import Messenger.Store.Memory

set_option relaxedAutoImplicit false
set_option autoImplicit false

/-!
# Files as a table of texts

In a folder that nobody else uses, the storage in files is a table of texts under safe names: keys
with the same safe name share their text, and the drafts that lie between the files never show.
There is one exception, the key of a single dot. It has a file, but its draft would be the folder
above, so that its text can be read and removed and never written.

## Main definitions

* `Messenger.Storage.Operation`, `Messenger.Storage.Answer`: what a storage is asked for, and what
  it says.
* `Messenger.Storage.answers`: what a storage says to a list of operations.
* `Messenger.Store.Named`: texts under the safe names of keys.
* `Messenger.Store.Mirrors`: a folder has the files of a table of texts.

## Main results

* `Messenger.Store.answers_files`: a folder that is empty at first answers as a table of texts.
* `Messenger.Store.answers_named_eq_iff`: the table is that of the safe names, unless the text of
  the dot is written.
* `Messenger.Store.ofText_draft_iff`: the draft of a key lies in the folder, unless the key is the
  dot.
* `Messenger.Store.answers_files_iff`: all of it together.
-/

namespace Messenger

/-! ### Lists of operations -/

namespace Storage

/-- What a storage is asked for. -/
inductive Operation
  | read (key : String)
  | write (key value : String)
  | remove (key : String)
  deriving DecidableEq, Repr

/-- What a storage says to an operation. -/
inductive Answer
  | found (result : Except Error (Option String))
  | done (result : Except Error Unit)

namespace Operation

/-- The key of an operation. -/
def key : Operation → String
  | read key => key
  | write key _ => key
  | remove key => key

/-- The same operation on another key. -/
def rename (f : String → String) : Operation → Operation
  | read key => read (f key)
  | write key value => write (f key) value
  | remove key => remove (f key)

end Operation

section Answers

variable {σ : Type} [Storage σ]

/-- Does one operation. -/
def perform : Operation → σ → Answer × σ
  | .read key, s => (.found (Storage.read key s).1, (Storage.read key s).2)
  | .write key value, s => (.done (Storage.write key value s).1, (Storage.write key value s).2)
  | .remove key, s => (.done (Storage.remove key s).1, (Storage.remove key s).2)

/-- What a storage says to a list of operations, each done in the state that the one before it
left. -/
def answers : List Operation → σ → List Answer
  | [], _ => []
  | op :: ops, s => (perform op s).1 :: answers ops (perform op s).2

end Answers

end Storage

namespace Store

open Storage (Operation Answer perform answers)

/-- The safe name of a key, as a key of its own. -/
def safeKey (key : String) : String :=
  String.ofList (safeName key)

/-- How many characters a key can have so that its draft has a name that a file can have. -/
def maxKeyLength : Nat := 246

/-- The key that has no draft. -/
def dot : String := "."

/-! ### Safe names -/

/-- Keys have the same safe name as keys exactly if they have it as characters. -/
lemma safeKey_inj {key other : String} :
    safeKey key = safeKey other ↔ safeName key = safeName other :=
  String.ofList_inj

/-- The dot is the only key with its safe name. -/
lemma safeName_eq_dot_iff {key : String} : safeName key = ['.'] ↔ key = dot := by
  constructor
  · intro h
    obtain ⟨c, hkey, hc⟩ := List.map_eq_singleton_iff.1 h
    have hdot : c = '.' := by
      split at hc
      · exact hc
      · exact absurd hc (by decide)
    rw [← String.toList_inj, hkey, hdot]
    rfl
  · rintro rfl
    rfl

/-- A safe character takes one byte. -/
lemma utf8Size_of_isSafe {c : Char} (h : isSafe c) : c.utf8Size = 1 := by
  rw [Char.utf8Size_eq_one_iff]
  simp only [isSafe, Bool.or_eq_true, beq_iff_eq] at h
  obtain ((hword | rfl) | rfl) | rfl := h
  · obtain (hupper | hlower) | hdigit :=
      (Bool.or_eq_true_iff.1 hword).imp_left Bool.or_eq_true_iff.1
    · exact UInt32.le_trans (of_decide_eq_true hupper).2 (by decide)
    · exact UInt32.le_trans (of_decide_eq_true (Bool.and_eq_true_iff.1 hlower).2) (by decide)
    · exact UInt32.le_trans (of_decide_eq_true (Bool.and_eq_true_iff.1 hdigit).2) (by decide)
  all_goals decide

/-- A text of safe characters has as many bytes as characters. -/
lemma utf8ByteSize_of_isSafe {name : List Char} (h : ∀ c ∈ name, isSafe c) :
    (String.ofList name).utf8ByteSize = name.length := by
  rw [String.utf8ByteSize_ofList]
  induction name with
  | nil => rfl
  | cons c name ih =>
    rw [String.utf8Len_cons, ih fun d hd => h d (List.mem_cons_of_mem c hd),
      utf8Size_of_isSafe (h c List.mem_cons_self), List.length_cons]

/-! ### Plain names -/

/-- A name of safe characters, the last of which is no dot. It is none of those by which folders are
known. -/
structure Plain (name : List Char) : Prop where
  safe : ∀ c ∈ name, isSafe c
  ends : ∃ c ∈ name.getLast?, c ≠ '.'

/-- Behind safe characters a plain name is plain. -/
lemma Plain.behind {front back : List Char} (h : Plain back) (hfront : ∀ c ∈ front, isSafe c) :
    Plain (front ++ back) where
  safe c hc := (List.mem_append.1 hc).elim (hfront c) (h.safe c)
  ends := by
    obtain ⟨c, hc, hdot⟩ := h.ends
    refine ⟨c, ?_, hdot⟩
    rw [List.getLast?_append, Option.mem_def.1 hc, Option.some_or]
    rfl

/-- The ending of complete files is plain. -/
lemma plain_ending : Plain ending where
  safe := List.all_eq_true.1 (by decide)
  ends := ⟨'n', by simp [ending], by decide⟩

/-- The ending of incomplete files is plain. -/
lemma plain_draftEnding : Plain draftEnding where
  safe := List.all_eq_true.1 (by decide)
  ends := ⟨'p', by simp [draftEnding], by decide⟩

/-- The name of a file is plain. -/
lemma plain_file (key : String) : Plain (safeName key ++ ending) :=
  plain_ending.behind fun _ => isSafe_of_mem_safeName

/-- The name of a draft is plain, but for that of the dot. It is longer than its key by two endings,
unless it is one of the shortest. -/
lemma exists_draftName_eq {key : String} (h : key ≠ dot) : ∃ name, Plain name ∧
    name.length ≤ max 14 (key.length + 9) ∧ draftName key = String.ofList name := by
  unfold draftName
  split
  · have htwice : Plain (ending ++ ending) := plain_ending.behind plain_ending.safe
    exact ⟨_, plain_draftEnding.behind htwice.safe, Nat.le_max_left 14 _, rfl⟩
  · next hsafe => exact absurd (safeName_eq_dot_iff.1 hsafe) h
  · refine ⟨_, plain_draftEnding.behind (plain_file key).safe, ?_, rfl⟩
    have hlength : (safeName key ++ ending ++ draftEnding).length = key.length + 9 := by
      simp [ending, draftEnding, String.length_toList]
    omega

namespace Plain

variable {name : List Char}

/-- A plain name is none by which a folder is known. -/
lemma ne_dots (h : Plain name) :
    String.ofList name ≠ "" ∧ String.ofList name ≠ Folder.itself ∧
      String.ofList name ≠ Folder.above := by
  obtain ⟨c, hc, hdot⟩ := h.ends
  refine ⟨?_, ?_, ?_⟩ <;> intro heq <;>
    rw [← String.toList_inj, String.toList_ofList] at heq <;> subst heq
  · cases hc
  · exact hdot (Option.mem_some.1 hc).symm
  · exact hdot (Option.mem_some.1 hc).symm

/-- A file can have a plain name that is short enough, where there are no folders. -/
lemma free (h : Plain name) {f : Folder} (hflat : ∀ other, f.get? other ≠ some .folder)
    (hfits : name.length ≤ Folder.maxNameLength) : f.Free (String.ofList name) where
  ne_itself := h.ne_dots.2.1
  ne_above := h.ne_dots.2.2
  fits := (utf8ByteSize_of_isSafe h.safe).trans_le hfits
  vacant := hflat _

end Plain

/-! ### The table and the folder -/

/-- Texts under the safe names of keys. That of the dot cannot be written. -/
structure Named where
  texts : Memory

instance : Storage Named where
  read key m := (.ok (m.texts.get? (safeKey key)), m)
  write key value m :=
    if key = dot then (.error (Files.failure "write" key .isFolder), m)
    else (.ok (), ⟨m.texts.put (safeKey key) value⟩)
  remove key m := (.ok (), ⟨m.texts.erase (safeKey key)⟩)

/-- There are no folders in a folder, and its complete files are those of a table. What drafts there
are does not matter. -/
structure Mirrors (s : Files) (m : Named) : Prop where
  flat : ∀ name, s.folder.get? name ≠ some .folder
  held : ∀ key, s.folder.get? (fileName key) =
    (m.texts.get? (safeKey key)).map fun text => .file text.toUTF8

namespace Mirrors

variable {s s' : Files} {m : Named} {key value : String}

/-- An empty folder has the files of an empty table. -/
lemma empty : Mirrors ⟨.empty⟩ ⟨.empty⟩ where
  flat _ := nofun
  held _ := rfl

section Fits

variable (h : Mirrors s m) (hfits : key.length ≤ maxKeyLength)
include h hfits

/-- A file can be there under the name of a key. -/
lemma free : s.folder.Free (fileName key) := by
  refine (plain_file key).free h.flat ?_
  have hlength : (safeName key ++ ending).length = key.length + 5 := by
    simp [ending, String.length_toList]
  have hmax : maxKeyLength + 5 ≤ Folder.maxNameLength := by decide
  omega

/-- A key other than the dot is ready. -/
lemma ready (hdot : key ≠ dot) : s.Ready key := by
  obtain ⟨name, hplain, hlength, hdraft⟩ := exists_draftName_eq hdot
  refine ⟨h.free hfits, hdraft ▸ hplain.free h.flat ?_⟩
  have hmax : max 14 (maxKeyLength + 9) ≤ Folder.maxNameLength := by decide
  omega

/-- What is read in the folder is what the table has. -/
lemma read_eq : s.read key = .ok (m.texts.get? (safeKey key)) := by
  have hheld := h.held key
  unfold Files.read
  cases htext : m.texts.get? (safeKey key) with
  | none =>
    rw [htext] at hheld
    rw [(h.free hfits).readText_of_none hheld]
  | some text =>
    rw [htext] at hheld
    rw [(h.free hfits).readText_eq hheld]

/-- To write the text of a key other than the dot puts it into the table. -/
lemma write (hdot : key ≠ dot) (value : String) :
    (s.write key value).1 = .ok () ∧
      Mirrors (s.write key value).2 ⟨m.texts.put (safeKey key) value⟩ := by
  have hready := h.ready hfits hdot
  refine ⟨congrArg Prod.fst (hready.write_eq value), fun name => ?_, fun other => ?_⟩
  · rw [hready.get?_write]
    split
    · simp
    · split
      · simp
      · exact h.flat name
  · rw [hready.get?_write, if_neg (draftName_ne_fileName key other).symm, Table.get?_put, h.held]
    simp only [fileName_inj, safeKey_inj]
    split <;> rfl

/-- To remove the text of a key takes it out of the table. -/
lemma remove :
    (s.remove key).1 = .ok () ∧ Mirrors (s.remove key).2 ⟨m.texts.erase (safeKey key)⟩ := by
  obtain ⟨hok, hget⟩ := Files.remove_of_free (h.free hfits)
  refine ⟨hok, fun name => ?_, fun other => ?_⟩
  · rw [hget]
    split
    · simp
    · exact h.flat name
  · rw [hget, Table.get?_erase, h.held]
    simp only [fileName_inj, safeKey_inj]
    split <;> rfl

end Fits

/-- **One operation.** To each operation the folder says what the table says, and it goes on to have
its files. -/
theorem perform (h : Mirrors s m) (op : Operation) (hfits : op.key.length ≤ maxKeyLength) :
    (Storage.perform op s).1 = (Storage.perform op m).1 ∧
      Mirrors (Storage.perform op s).2 (Storage.perform op m).2 := by
  cases op with
  | read key => exact ⟨congrArg Answer.found (h.read_eq hfits), h⟩
  | write key value =>
    by_cases hdot : key = dot
    · -- The draft of the dot is a folder, which no text is written to.
      subst hdot
      exact ⟨rfl, h⟩
    · obtain ⟨hok, hafter⟩ := h.write hfits hdot value
      simp only [Storage.perform, Storage.write, if_neg hdot]
      exact ⟨congrArg Answer.done hok, hafter⟩
  | remove key =>
    obtain ⟨hok, hafter⟩ := h.remove hfits
    exact ⟨congrArg Answer.done hok, hafter⟩

/-- **Operations in a row.** To a list of operations the folder says what the table says.

**Proof sketch.** Induction on the operations, as after each of them the folder has the files of the
table again. -/
theorem answers {ops : List Operation} (h : Mirrors s m)
    (hfits : ∀ op ∈ ops, op.key.length ≤ maxKeyLength) :
    Storage.answers ops s = Storage.answers ops m := by
  induction ops generalizing s m with
  | nil => rfl
  | cons op ops ih =>
    obtain ⟨hanswer, hafter⟩ := h.perform op (hfits op List.mem_cons_self)
    rw [Storage.answers, Storage.answers, hanswer,
      ih hafter fun other hother => hfits other (List.mem_cons_of_mem op hother)]

end Mirrors

/-! ### Names instead of keys -/

/-- **The table of safe names is one without the dot.** The table of the safe names says the same as
one without the dot, exactly if no text of the dot is written.

**Proof sketch.** Induction on the operations. Both tables have the same texts and say the same,
until a text of the dot is written: the one refuses it, and the other takes it. -/
theorem answers_named_eq_iff (ops : List Operation) (m : Memory) :
    answers ops (⟨m⟩ : Named) = answers (ops.map (.rename safeKey)) m ↔
      ∀ value, .write dot value ∉ ops := by
  induction ops generalizing m with
  | nil => simp [answers]
  | cons op ops ih =>
    cases op with
    | read key =>
      simpa [answers, Storage.perform, Operation.rename, Storage.read] using ih m
    | write key value =>
      by_cases hdot : key = dot
      · subst hdot
        -- Here the two tables give different answers.
        refine iff_of_false (fun h => ?_) fun h => h value List.mem_cons_self
        have hhead := List.head_eq_of_cons_eq h
        simp [Storage.perform, Operation.rename, Storage.write] at hhead
      · simpa [answers, Storage.perform, Operation.rename, Storage.write, hdot, Ne.symm hdot]
          using ih (m.put (safeKey key) value)
    | remove key =>
      simpa [answers, Storage.perform, Operation.rename, Storage.remove] using
        ih (m.erase (safeKey key))

section Rename

variable {f : String → String} {m m' : Memory}

/-- To an operation on another key a table says the same if it has the same there. -/
lemma answer_rename {op : Operation} (h : m'.get? (f op.key) = m.get? op.key) :
    (perform (op.rename f) m').1 = (perform op m).1 := by
  cases op with
  | read key => exact congrArg (Answer.found ∘ Except.ok) h
  | write key value => rfl
  | remove key => rfl

/-- After an operation on another key there is the same under a third one. -/
lemma get?_rename {op : Operation} {key : String} (hsame : m'.get? (f key) = m.get? key)
    (hinj : f key = f op.key → key = op.key) :
    (perform (op.rename f) m').2.get? (f key) = (perform op m).2.get? key := by
  have hiff : f key = f op.key ↔ key = op.key := ⟨hinj, congrArg f⟩
  cases op with
  | read => exact hsame
  | write other value =>
    exact (Table.get?_put _ _ _ _).trans
      ((if_congr hiff rfl hsame).trans (Table.get?_put _ _ _ _).symm)
  | remove other =>
    exact (Table.get?_erase _ _ _).trans
      ((if_congr hiff rfl hsame).trans (Table.get?_erase _ _ _).symm)

/-- A table says the same to operations on other keys, if different keys have different ones in
their place.

**Proof sketch.** Induction on the operations. What is there under the other key is what was there
under the key, and stays so after each of them (`get?_rename`). -/
theorem answers_rename {ops : List Operation}
    (hinj : ∀ op ∈ ops, ∀ other ∈ ops, f op.key = f other.key → op.key = other.key)
    (hsame : ∀ op ∈ ops, m'.get? (f op.key) = m.get? op.key) :
    answers (ops.map (.rename f)) m' = answers ops m := by
  induction ops generalizing m m' with
  | nil => rfl
  | cons op ops ih =>
    have hmem := fun other (h : other ∈ ops) => List.mem_cons_of_mem op h
    rw [List.map_cons, answers, answers, answer_rename (hsame op List.mem_cons_self)]
    congr 1
    refine ih (fun a ha b hb => hinj a (hmem a ha) b (hmem b hb)) fun other hother => ?_
    exact get?_rename (hsame other (hmem other hother))
      (hinj other (hmem other hother) op List.mem_cons_self)

end Rename

/-! ### Where the files lie -/

/-- Behind a slash a name without slashes is one more step. -/
lemma ofText_child (folder : String) {name : List Char} (h : '/' ∉ name) :
    Path.ofText (folder ++ "/" ++ String.ofList name) =
      (Path.ofText folder).step (String.ofList name) := by
  have hsteps : Path.steps (folder ++ "/" ++ String.ofList name) =
      Path.steps folder ++ [String.ofList name] := by
    have hslash : (folder ++ "/" ++ String.ofList name).toList = folder.toList ++ '/' :: name := by
      simp
    rw [Path.steps, hslash, Text.splitAtEvery_append, Text.splitAtEvery_of_notMem h,
      List.map_append]
    rfl
  rw [Path.ofText, hsteps, List.foldl_append]
  rfl

/-- A plain name behind a slash is that of an entry of the folder. -/
lemma Plain.ofText {name : List Char} (h : Plain name) (folder : String) :
    Path.ofText (folder ++ "/" ++ String.ofList name) =
      Path.ofText folder ++ [String.ofList name] := by
  obtain ⟨hempty, hitself, habove⟩ := h.ne_dots
  have hslash : '/' ∉ name := fun hc => absurd (h.safe _ hc) (by decide)
  rw [ofText_child folder hslash, Path.step, if_neg (not_or.2 ⟨hempty, hitself⟩), if_neg habove]

/-- **Only the draft of the dot lies elsewhere.** The draft of a key lies in the folder, unless the
key is the dot.

**Proof sketch.** For another key the draft has a plain name, which is one more step behind the
folder. The draft of the dot is two dots, which is one step back, so that the path gets shorter and
not longer. -/
theorem ofText_draft_iff (folder key : String) :
    Path.ofText (folder ++ "/" ++ draftName key) = Path.ofText folder ++ [draftName key] ↔
      key ≠ dot := by
  constructor
  · rintro hchild rfl
    have hslash : '/' ∉ ['.', '.'] := by decide
    have habove : Path.ofText (folder ++ "/" ++ draftName dot) = (Path.ofText folder).dropLast :=
      ofText_child folder hslash
    have hlength := congrArg List.length (habove.symm.trans hchild)
    rw [List.length_dropLast, List.length_append, List.length_singleton] at hlength
    omega
  · intro hdot
    obtain ⟨name, hplain, -, hdraft⟩ := exists_draftName_eq hdot
    rw [hdraft]
    exact hplain.ofText folder

/-! ### The storage in files -/

/-- **Files are a table of texts.** A folder that is empty at first says what the table of safe
names says, as long as the keys are not too long for their files. -/
theorem answers_files {ops : List Operation}
    (hfits : ∀ op ∈ ops, op.key.length ≤ maxKeyLength) :
    answers ops (⟨.empty⟩ : Files) = answers ops (⟨.empty⟩ : Named) :=
  Mirrors.empty.answers hfits

/-- **Files answer as memory does, unless the dot is written.** Let nobody else use a folder that is
empty at first, and let keys be short enough for their files. Then the storage in files is a table
of texts under safe names, but for the dot, whose text cannot be written. It answers as if the keys
were their safe names, and if these are different for different keys as if it were in memory, both
exactly if no text of the dot is written. Whatever a key is, its file lies in the folder, and so
does its draft exactly if the key is not the dot.

**Proof sketch.** The folder has the files of a table after every operation (`answers_files`), that
table is one of safe names unless the dot is written (`answers_named_eq_iff`), and different safe
names are as good as the keys themselves (`answers_rename`). Where files lie is a matter of their
names: those of complete files are plain, and so are those of drafts but one
(`ofText_draft_iff`). -/
theorem answers_files_iff (ops : List Operation)
    (hfits : ∀ op ∈ ops, op.key.length ≤ maxKeyLength) :
    answers ops (⟨.empty⟩ : Files) = answers ops (⟨.empty⟩ : Named) ∧
    (answers ops (⟨.empty⟩ : Files) = answers (ops.map (.rename safeKey)) (.empty : Memory) ↔
      ∀ value, .write dot value ∉ ops) ∧
    ((∀ op ∈ ops, ∀ other ∈ ops, safeName op.key = safeName other.key → op.key = other.key) →
      (answers ops (⟨.empty⟩ : Files) = answers ops (.empty : Memory) ↔
        ∀ value, .write dot value ∉ ops)) ∧
    ∀ folder key,
      Path.ofText (folder ++ "/" ++ fileName key) = Path.ofText folder ++ [fileName key] ∧
      (Path.ofText (folder ++ "/" ++ draftName key) = Path.ofText folder ++ [draftName key] ↔
        key ≠ dot) := by
  have hnamed := answers_files hfits
  have hiff := hnamed ▸ answers_named_eq_iff ops .empty
  refine ⟨hnamed, hiff, fun hinj => ?_, fun folder key =>
    ⟨(plain_file key).ofText folder, ofText_draft_iff folder key⟩⟩
  have hmemory : answers (ops.map (.rename safeKey)) (.empty : Memory) =
      answers ops (.empty : Memory) :=
    answers_rename (fun op hop other hother h => hinj op hop other hother (safeKey_inj.1 h))
      fun _ _ => rfl
  rw [hmemory] at hiff
  exact hiff

namespace Sample

/-- Keys of which one has no characters, one has a slash, and two are like names of files. -/
def errands : List Operation :=
  [.write "a/b" "1", .write "" "2", .write ".json" "3", .write "..json.tmp" "4", .read "a/b",
    .read "", .remove "", .read ".json", .read "", .read "..json.tmp", .remove "."]

end Sample

/-- Four texts are kept apart and read again, as they would be in memory. -/
theorem answers_files_errands :
    (∀ op ∈ Sample.errands, op.key.length ≤ maxKeyLength) ∧
    (∀ op ∈ Sample.errands, ∀ other ∈ Sample.errands,
      safeName op.key = safeName other.key → op.key = other.key) ∧
    (∀ value, .write dot value ∉ Sample.errands) ∧
    answers Sample.errands (⟨.empty⟩ : Files) = answers Sample.errands (.empty : Memory) ∧
    answers Sample.errands (.empty : Memory) =
      [.done (.ok ()), .done (.ok ()), .done (.ok ()), .done (.ok ()), .found (.ok (some "1")),
        .found (.ok (some "2")), .done (.ok ()), .found (.ok (some "3")), .found (.ok none),
        .found (.ok (some "4")), .done (.ok ())] := by
  have hfits : ∀ op ∈ Sample.errands, op.key.length ≤ maxKeyLength := by decide
  have hinj : ∀ op ∈ Sample.errands, ∀ other ∈ Sample.errands,
      safeName op.key = safeName other.key → op.key = other.key := by decide
  have hdot : ∀ value, .write dot value ∉ Sample.errands := by
    intro value h
    simp [Sample.errands, dot] at h
  exact ⟨hfits, hinj, hdot, ((answers_files_iff Sample.errands hfits).2.2.1 hinj).2 hdot, rfl⟩

/-- The text of the dot is refused, although the key is short and the folder has nothing in it: its
draft is none of the files in the folder, but the folder in which that lies. -/
theorem dot_refused :
    answers [.write dot "x", .read dot] (⟨.empty⟩ : Files) =
      [.done (.error (.storage "write . failed: Is a directory (os error 21)")),
        .found (.ok none)] ∧
    answers ([.write dot "x", .read dot].map (.rename safeKey)) (.empty : Memory) =
      [.done (.ok ()), .found (.ok (some "x"))] ∧
    Path.ofText ("chat/store" ++ "/" ++ draftName dot) = ["chat"] := by
  refine ⟨rfl, rfl, by decide⟩

end Store

end Messenger
