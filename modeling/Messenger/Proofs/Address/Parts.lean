import Mathlib.Tactic.Lemma
import Messenger.Address.Basic
import Messenger.Proofs.Address.Form
import Messenger.Proofs.Domain.Name
import Messenger.Proofs.Text.Decimal

set_option relaxedAutoImplicit false
set_option autoImplicit false

/-!
# The parts of an address

Whoever reads the text of an address finds its parts by the signs between them: the fragment begins
at the first number sign, the query at the first question mark in front of it, the scheme ends at
the first colon, and the path begins at the first slash behind the host. So the parts that are read
are those that were written only if none of these signs occurs where it has no business. What a
place does not keep as it is, is written as bytes, and a name of a host is refused if it has such a
sign.

## Main definitions

* `Messenger.Address.Parts`: the parts of an address.
* `Messenger.Address.Parts.of`: the parts that are found in a text.
* `Messenger.Address.authority`: the written form of what stands between scheme and path.
* `Messenger.Address.Plain`: an address whose parts have no signs that end them.

## Main results

* `Messenger.Address.Plain.parts_render`: the parts of a plain address are found in its text.
* `Messenger.Address.plain_of_read`: an address is plain whose origin has been read under a scheme
  of the web, whatever its path.
-/

namespace Messenger.Address

/-! ### Parts of a text -/

/-- The parts of an address. -/
@[ext] structure Parts where
  scheme : List Char
  /-- Host and port, with what stands in front of them. -/
  authority : List Char
  path : List Char
  query : Option (List Char)
  fragment : Option (List Char)
  deriving DecidableEq, Repr

/-- What is in front of the first sign of a kind, and what is behind it if there is one. -/
def cutAt (sign : Char) (s : List Char) : List Char × Option (List Char) :=
  (s.takeWhile (· ≠ sign),
    match s.dropWhile (· ≠ sign) with
    | [] => none
    | _ :: rest => some rest)

/-- The parts that are found in the text of an address. -/
def Parts.of (text : List Char) : Parts :=
  let (text, fragment) := cutAt '#' text
  let (text, query) := cutAt '?' text
  let scheme := text.takeWhile (· ≠ ':')
  let behind := text.drop (scheme.length + 3)
  ⟨scheme, behind.takeWhile (· ≠ '/'), behind.dropWhile (· ≠ '/'), query, fragment⟩

/-- Characters that are not the sign are all taken. -/
lemma takeWhile_append {sign : Char} {s : List Char} (h : sign ∉ s) (t : List Char) :
    (s ++ t).takeWhile (· ≠ sign) = s ++ t.takeWhile (· ≠ sign) :=
  List.takeWhile_append_of_pos fun c hc => decide_eq_true (by rintro rfl; exact h hc)

/-- Characters that are not the sign are all dropped. -/
lemma dropWhile_append {sign : Char} {s : List Char} (h : sign ∉ s) (t : List Char) :
    (s ++ t).dropWhile (· ≠ sign) = t.dropWhile (· ≠ sign) :=
  List.dropWhile_append_of_pos fun c hc => decide_eq_true (by rintro rfl; exact h hc)

/-- A text is cut at the first sign. -/
lemma cutAt_append {sign : Char} {s : List Char} (h : sign ∉ s) (t : List Char) :
    cutAt sign (s ++ sign :: t) = (s, some t) := by
  rw [cutAt, takeWhile_append h, dropWhile_append h]
  simp

/-- A text without the sign is not cut. -/
lemma cutAt_of_notMem {sign : Char} {s : List Char} (h : sign ∉ s) : cutAt sign s = (s, none) := by
  have htake := takeWhile_append h []
  have hdrop := dropWhile_append h []
  rw [List.append_nil] at htake hdrop
  rw [cutAt, htake, hdrop]
  simp

/-! ### Signs that end a part -/

/-- The signs at which the part with the host ends. -/
def ends (c : Char) : Bool :=
  c = '/' || c = '?' || c = '#'

/-- Nothing in the text ends the part with the host. -/
def Whole (s : List Char) : Prop :=
  ∀ c ∈ s, ends c = false

/-- A character of a class to which none of the signs belongs is none of them. -/
lemma ends_eq_false {p : Char → Bool} (hslash : p '/' = false) (hquestion : p '?' = false)
    (hnumber : p '#' = false) {c : Char} (h : p c) : ends c = false := by
  rw [← Bool.not_eq_true]
  intro hends
  simp only [ends, Bool.or_eq_true, decide_eq_true_eq] at hends
  rcases hends with (rfl | rfl) | rfl
  · exact Bool.false_ne_true (hslash.symm.trans h)
  · exact Bool.false_ne_true (hquestion.symm.trans h)
  · exact Bool.false_ne_true (hnumber.symm.trans h)

/-- A whole text has none of the signs. -/
lemma Whole.notMem {s : List Char} (h : Whole s) : '/' ∉ s ∧ '?' ∉ s ∧ '#' ∉ s := by
  refine ⟨fun hc => ?_, fun hc => ?_, fun hc => ?_⟩ <;>
    exact Bool.false_ne_true ((h _ hc).symm.trans (by decide))

/-- Texts that are whole are so together. -/
lemma Whole.append {s t : List Char} (hs : Whole s) (ht : Whole t) : Whole (s ++ t) :=
  List.forall_mem_append.2 ⟨hs, ht⟩

/-- A whole text stays whole behind a character that ends nothing. -/
lemma Whole.cons {c : Char} (hc : ends c = false) {s : List Char} (h : Whole s) : Whole (c :: s) :=
  List.forall_mem_cons.2 ⟨hc, h⟩

/-- The separator apart, parts that are put together are whole if each of them is. -/
lemma Whole.intercalate {separator : Char} (hs : ends separator = false) {parts : List (List Char)}
    (h : ∀ part ∈ parts, Whole part) : Whole ([separator].intercalate parts) := by
  intro c hc
  rcases Text.mem_intercalate hc with rfl | ⟨part, hpart, hc⟩
  · exact hs
  · exact h part hpart c hc

/-- What a percent-encoded text is made of. -/
lemma mem_percentEncode {keeps : Char → Bool} {s : List Char} {c : Char}
    (h : c ∈ percentEncode keeps s) : keeps c ∨ c = '%' ∨ c.isAlphanum := by
  obtain ⟨d, -, hc⟩ := List.mem_flatMap.1 h
  split at hc
  · next hkeeps =>
    rw [List.mem_singleton.1 hc]
    exact .inl hkeeps
  · obtain ⟨b, -, hb⟩ := List.mem_flatMap.1 hc
    exact .inr (isAlphanum_of_mem_percentByte hb)

/-! ### Hosts -/

/-- A number in base sixteen is written in digits of base sixteen. -/
lemma whole_toDigits (n : Nat) : Whole (Nat.toDigits 16 n) := by
  have hdigits : ∀ d < 16, ends d.digitChar = false := by decide
  induction n using Nat.strongRecOn with
  | _ n ih =>
    rcases Nat.lt_or_ge n 16 with h | h
    · rw [Nat.toDigits_of_lt_base h]
      exact Whole.cons (hdigits n h) (List.forall_mem_nil _)
    · rw [Nat.toDigits_of_base_le (by decide) h]
      exact (ih (n / 16) (by omega)).append
        (Whole.cons (hdigits _ (Nat.mod_lt _ (by decide))) (List.forall_mem_nil _))

/-- A number in decimal is whole. -/
lemma whole_decimal (n : Nat) : Whole (Text.decimal n) := fun _ hc =>
  ends_eq_false (p := Char.isDigit) (by decide) (by decide) (by decide)
    (Text.isDigit_of_mem_decimal hc)

namespace Host

/-- Numbers of version 4 are whole. -/
lemma whole_writeFour (n : Nat) : Whole (writeFour n) := by
  refine Whole.intercalate (by decide) fun part hpart => ?_
  obtain ⟨m, -, rfl⟩ := List.mem_map.1 hpart
  exact whole_decimal m

/-- Pieces are whole. -/
lemma whole_writePieces (pieces : List Nat) : Whole (writePieces pieces) := by
  refine Whole.intercalate (by decide) fun part hpart => ?_
  obtain ⟨m, -, rfl⟩ := List.mem_map.1 hpart
  exact whole_toDigits m

/-- Numbers of version 6 are whole. -/
lemma whole_writeSix (pieces : List Nat) : Whole (writeSix pieces) := by
  unfold writeSix
  split
  split
  · exact whole_writePieces _
  · exact (whole_writePieces _).append
      (Whole.cons (by decide) (Whole.cons (by decide) (whole_writePieces _)))

/-- Between brackets there is a number of version 6. -/
lemma exists_of_readBrackets {s : List Char} {h : Host} (hread : readBrackets s = .ok h) :
    ∃ pieces, h = .six pieces := by
  unfold readBrackets at hread
  split at hread
  · unfold readSix at hread
    dsimp only at hread
    split at hread
    · cases hread
    · split at hread
      · cases hread
      · cases hread
        exact ⟨_, rfl⟩
  · cases hread

/-- A host of an address of the web is written as a whole.

**Proof sketch.** Numbers are written in digits, dots and colons. A name is left only where the text
has passed all checks of `Host.read`, and one of them refuses every sign that ends the part with the
host. -/
lemma whole_write {s : List Char} {h : Host} (hread : Host.read s = .ok h) : Whole h.write := by
  have hname : ∀ name, h = .name name → Whole name := by
    rintro name rfl
    unfold Host.read at hread
    split at hread
    · obtain ⟨pieces, hsix⟩ := exists_of_readBrackets hread
      cases hsix
    · split at hread
      · cases hread
      · split at hread
        · cases hread
        · next ascii hascii =>
          split at hread
          · cases hread
          · split at hread
            · unfold readFour at hread
              split at hread
              · cases hread
              · split at hread <;> cases hread
            · cases hread
              intro c hc
              -- No sign that ends the part with the host is allowed in a name.
              have hallowed := Domain.not_isForbidden_of_toAscii? hascii c hc
              exact ends_eq_false (p := fun c => !Domain.isForbidden c) (by decide) (by decide)
                (by decide) (by simp [hallowed])
  cases h with
  | name name => exact hname name rfl
  | four n => exact whole_writeFour n
  | six pieces =>
    exact Whole.append (Whole.cons (by decide) (whole_writeSix pieces))
      (Whole.cons (by decide) (List.forall_mem_nil _))

end Host

/-! ### Origins -/

/-- The written form of what stands between scheme and path. -/
def authority (o : Origin) : List Char :=
  (if o.userinfo.isEmpty then [] else o.userinfo ++ ['@']) ++
    (match o.host with
      | some h => h.write
      | none => []) ++
    match o.port with
      | some p => ':' :: Text.decimal p
      | none => []

/-- The port that is meant, whether it is written or goes without saying. -/
def Origin.effectivePort? (o : Origin) : Option Nat :=
  o.port.or (defaultPort? o.scheme)

namespace Origin

/-- The part in front of the host is whole. -/
lemma whole_writeUserinfo (s : List Char) : Whole (writeUserinfo s) := by
  have hwhole : ∀ t, Whole (percentEncode keptInUserinfo t) := by
    intro t c hc
    refine ends_eq_false (p := fun c => keptInUserinfo c || c = '%' || c.isAlphanum) (by decide)
      (by decide) (by decide) ?_
    simpa [or_assoc] using mem_percentEncode hc
  unfold writeUserinfo
  dsimp only
  split
  · exact hwhole _
  · exact (hwhole _).append (Whole.cons (by decide) (hwhole _))

/-- The host of an address of the web is one that its scheme allows.

**Proof sketch.** The branches of the reader one by one. Under a scheme of the web all that go well
have read the host from what stands in front of the port. -/
lemma read_of_readHostAndPort {scheme s : List Char} {host : Host} {port : Option Nat}
    (hweb : schemeClass scheme = .web) (h : readHostAndPort scheme s = .ok (host, port)) :
    Host.read (splitHost false s).1 = .ok host := by
  unfold readHostAndPort at h
  rw [hweb] at h
  dsimp only at h
  split at h
  · cases h
  · rw [if_pos rfl] at h
    split at h
    · cases h
    · next read hread =>
      split at h
      · cases h
        exact hread
      · next behind port' _ =>
        split at h
        · cases h
        · cases hport : readPort scheme port' with
          | error fault =>
            rw [hport] at h
            cases h
          | ok p =>
            rw [hport] at h
            cases h
            exact hread

/-- What is read behind the slashes has the scheme, a host and a written part in front of it. -/
lemma of_readAuthority {scheme s : List Char} {o : Origin} (h : readAuthority scheme s = .ok o) :
    o.scheme = scheme ∧ (∃ t, o.userinfo = writeUserinfo t) ∧
      ∃ host, o.host = some host ∧ (schemeClass scheme = .web → ∃ t, Host.read t = .ok host) := by
  unfold readAuthority at h
  dsimp only at h
  split at h
  · cases h
  · split at h
    · cases h
    · next host port hhost =>
      split at h
      · cases h
      · cases h
        exact ⟨rfl, ⟨_, rfl⟩, host, rfl, fun hweb => ⟨_, read_of_readHostAndPort hweb hhost⟩⟩

/-- The origin of a file has the scheme of files.

**Proof sketch.** Every branch of the reader makes an origin with this scheme, either outright or
out of the host that it has read. -/
lemma scheme_of_readFile {s : List Char} {o : Origin} (h : readFile s = .ok o) :
    o.scheme = "file".toList := by
  have hmap : ∀ {read : Except Fault Host} {place : Host → Origin},
      (∀ host, (place host).scheme = "file".toList) → read.map place = .ok o →
      o.scheme = "file".toList := by
    intro read place hplace hread
    cases read with
    | error fault => cases hread
    | ok host =>
      cases hread
      exact hplace host
  unfold readFile at h
  dsimp only at h
  split at h
  · split at h
    · split at h
      · cases h
        rfl
      · split at h
        · cases h
          rfl
        · exact hmap (fun _ => rfl) h
      · exact hmap (fun _ => rfl) h
    · cases h
      rfl
  · cases h
    rfl

/-- An origin of the web has a host that its scheme allows, and what stands in front of the host is
written.

**Proof sketch.** By the class of the scheme. Under one of the web the text is read as an authority
(`of_readAuthority`). A file has the scheme of files, which is not of the web, and neither is any of
the others. -/
lemma of_read {address : String} {o : Origin} (h : read address = .ok o)
    (hweb : schemeClass o.scheme = .web) :
    (∃ t, o.userinfo = writeUserinfo t) ∧
      ∃ host, o.host = some host ∧ ∃ t, Host.read t = .ok host := by
  unfold read at h
  split at h
  · cases h
  · next scheme rest _ =>
    split at h
    · obtain ⟨rfl, huserinfo, host, hhost, hread⟩ := of_readAuthority h
      exact ⟨huserinfo, host, hhost, hread hweb⟩
    · rw [scheme_of_readFile h] at hweb
      exact absurd hweb (by decide)
    · next hother =>
      split at h
      · obtain ⟨rfl, huserinfo, host, hhost, hread⟩ := of_readAuthority h
        exact ⟨huserinfo, host, hhost, hread hweb⟩
      · cases h
        exact absurd (hother.symm.trans hweb) (by decide)

/-- What stands between the scheme and the path of an address of the web is whole. -/
lemma whole_authority {address : String} {o : Origin} (h : read address = .ok o)
    (hweb : schemeClass o.scheme = .web) : Whole (authority o) := by
  obtain ⟨⟨t, huserinfo⟩, host, hhost, s, hread⟩ := of_read h hweb
  have hnil : Whole [] := List.forall_mem_nil _
  refine Whole.append (Whole.append ?_ ?_) ?_
  · split
    · exact hnil
    · rw [huserinfo]
      exact (whole_writeUserinfo t).append (Whole.cons (by decide) hnil)
  · rw [hhost]
    exact Host.whole_write hread
  · cases o.port with
    | none => exact hnil
    | some p => exact Whole.cons (by decide) (whole_decimal p)

end Origin

/-- In front of the path there is the scheme and what stands behind its slashes. -/
lemma writeOrigin_eq (o : Origin) : writeOrigin o = o.scheme ++ "://".toList ++ authority o := by
  obtain ⟨scheme, userinfo, host, port, fragment⟩ := o
  cases host <;> cases port <;> simp [writeOrigin, authority]

/-! ### Paths -/

/-- What is true of the segments of a place, is true of those of the place above. -/
lemma forall_mem_leave {p : List Char → Prop} {place : List (List Char)}
    (h : ∀ name ∈ place, p name) : ∀ name ∈ leave place, p name := by
  unfold leave
  split
  · exact h
  · exact fun name hname => h name (List.dropLast_subset _ hname)

/-- The segments that are followed add only names and empty segments to those of a place.

**Proof sketch.** Induction as the segments are followed: a name is added, one is taken away, or the
place stays as it is, and at the end an empty segment may be added. -/
lemma forall_mem_follow {p : List Char → Prop} (hnil : p []) (place : List (List Char))
    (said : List Segment) :
    (∀ name ∈ place, p name) → (∀ name, .named name ∈ said → p name) →
      ∀ name ∈ follow place said, p name := by
  have hempty : ∀ name ∈ [([] : List Char)], p name := by simpa using hnil
  fun_induction follow place said with
  | case1 place => exact fun hplace _ => hplace
  | case2 place name =>
    intro hplace hsaid
    exact List.forall_mem_append.2 ⟨hplace, by simpa using hsaid name⟩
  | case3 place => exact fun hplace _ => List.forall_mem_append.2 ⟨hplace, hempty⟩
  | case4 place =>
    exact fun hplace _ => List.forall_mem_append.2 ⟨forall_mem_leave hplace, hempty⟩
  | case5 place name rest _ ih =>
    intro hplace hsaid
    refine ih (List.forall_mem_append.2 ⟨hplace, by simpa using hsaid name⟩) fun other hother => ?_
    exact hsaid other (List.mem_cons_of_mem _ hother)
  | case6 place rest _ ih =>
    intro hplace hsaid
    exact ih hplace fun name hname => hsaid name (List.mem_cons_of_mem _ hname)
  | case7 place rest _ ih =>
    intro hplace hsaid
    exact ih (forall_mem_leave hplace) fun name hname => hsaid name (List.mem_cons_of_mem _ hname)

/-- Where a segment was, one is left. -/
lemma follow_ne_nil {said : List Segment} (h : said ≠ []) (place : List (List Char)) :
    follow place said ≠ [] := by
  fun_induction follow place said with
  | case1 => exact absurd rfl h
  | case2 | case3 | case4 => simp
  | case5 _ _ _ hrest ih | case6 _ _ hrest ih | case7 _ _ hrest ih => exact ih hrest

/-- The written path begins with a slash. -/
lemma exists_writePath (path : String) : ∃ rest, writePath path = '/' :: rest := by
  have hsegments : segments path.toList ≠ [] :=
    follow_ne_nil (mt List.map_eq_nil_iff.1 (Text.splitAtEvery_ne_nil _ _)) []
  obtain ⟨first, others, hcons⟩ := List.exists_cons_of_ne_nil hsegments
  exact ⟨first ++ others.flatMap ('/' :: ·), by rw [writePath, hcons]; rfl⟩

/-- The written path has neither a question mark nor a number sign. -/
lemma notMem_writePath (path : String) : '?' ∉ writePath path ∧ '#' ∉ writePath path := by
  have hnamed : ∀ s, ∀ name, readSegment s = .named name → '?' ∉ name ∧ '#' ∉ name := by
    intro s name hname
    unfold readSegment at hname
    split at hname
    · cases hname
    · cases hname
    · cases hname
      constructor <;> intro h <;> rcases mem_percentEncode h with h | h | h <;> revert h <;> decide
  have hsegments : ∀ name ∈ segments path.toList, '?' ∉ name ∧ '#' ∉ name := by
    refine forall_mem_follow (by simp) [] _ (by simp) fun name hname => ?_
    obtain ⟨s, -, hs⟩ := List.mem_map.1 hname
    exact hnamed s name hs
  constructor <;> intro h <;> obtain ⟨name, hname, h⟩ := List.mem_flatMap.1 h
  · exact (hsegments name hname).1 (List.mem_of_ne_of_mem (by decide) h)
  · exact (hsegments name hname).2 (List.mem_of_ne_of_mem (by decide) h)

/-! ### Addresses -/

/-- The parts of an address have none of the signs that end them. -/
structure Plain (a : Address) : Prop where
  scheme : Whole a.origin.scheme
  colon : ':' ∉ a.origin.scheme
  authority : Whole (authority a.origin)
  path : ∃ rest, a.path = '/' :: rest
  question : '?' ∉ a.path
  number : '#' ∉ a.path
  query : '#' ∉ a.query

/-- **The parts that are read are the parts that were written.** The text of a plain address is
taken apart into scheme, authority, path, query and fragment as it was put together.

**Proof sketch.** From the right to the left, as the reader cuts. No number sign stands in front of
the fragment, no question mark in front of the query, no colon in the scheme and no slash in the
authority, so every cut is made where the parts were joined. -/
theorem Plain.parts_render {a : Address} (h : Plain a) :
    Parts.of a.render.toList =
      ⟨a.origin.scheme, Address.authority a.origin, a.path, some a.query, a.origin.fragment⟩ := by
  obtain ⟨-, hquestion, hnumber⟩ := h.scheme.notMem
  obtain ⟨hslash', hquestion', hnumber'⟩ := h.authority.notMem
  obtain ⟨rest, hpath⟩ := h.path
  obtain ⟨front, hfront⟩ : ∃ front, front = writeOrigin a.origin ++ a.path := ⟨_, rfl⟩
  have hfront_question : '?' ∉ front := by
    simp [hfront, writeOrigin_eq, hquestion, hquestion', h.question]
  have hfront_number : '#' ∉ front ++ '?' :: a.query := by
    simp [hfront, writeOrigin_eq, hnumber, hnumber', h.number, h.query]
  have hfragment : cutAt '#' a.render.toList = (front ++ '?' :: a.query, a.origin.fragment) := by
    rw [render, String.toList_ofList, ← hfront]
    cases a.origin.fragment with
    | none => simpa using cutAt_of_notMem hfront_number
    | some f => exact cutAt_append hfront_number f
  have hscheme : front.takeWhile (· ≠ ':') = a.origin.scheme := by
    rw [hfront, writeOrigin_eq, List.append_assoc, List.append_assoc, takeWhile_append h.colon]
    simp
  have hbehind :
      front.drop (a.origin.scheme.length + 3) = Address.authority a.origin ++ a.path := by
    rw [hfront, writeOrigin_eq, List.append_assoc]
    exact List.drop_left' (by simp)
  rw [Parts.of, hfragment]
  dsimp only
  rw [cutAt_append hfront_question]
  dsimp only
  rw [hscheme, hbehind, takeWhile_append hslash', dropWhile_append hslash', hpath]
  simp

/-- **Nothing that is configured breaks an address apart.** An address is plain whose origin has
been read under a scheme of the web, whatever scheme, path and pair it is given.

**Proof sketch.** The origin is whole (`whole_authority`), a written path has neither a question
mark nor a number sign (`notMem_writePath`), and a written pair keeps only letters, digits and a few
signs. -/
theorem plain_of_read {text : String} {o : Origin} (hread : Origin.read text = .ok o)
    (hweb : schemeClass o.scheme = .web) {scheme : List Char} (hscheme : Whole scheme)
    (hcolon : ':' ∉ scheme) (path name value : String) :
    Plain ⟨{ o with scheme := scheme }, writePath path, Form.encodePair name value⟩ := by
  obtain ⟨hquestion, hnumber⟩ := notMem_writePath path
  have hauthority : Whole (authority o) := Origin.whole_authority hread hweb
  refine ⟨hscheme, hcolon, hauthority, exists_writePath path, hquestion, hnumber, ?_⟩
  intro h
  rcases List.mem_append.1 h with h | h
  · rcases Form.keeps_of_mem_encode h with h | h | h <;> revert h <;> decide
  · rcases Form.keeps_of_mem_encode (List.mem_of_ne_of_mem (by decide) h) with h | h | h <;>
      revert h <;> decide

end Messenger.Address
