import Mathlib.Data.List.TakeDrop
import Mathlib.Data.List.TakeWhile
import Reconcile.Proofs.Form
import Reconcile.Proofs.ObjectUrl

/-!
# Where the query of a URL starts

No part of a URL in front of its query holds a question mark: a scheme and a port have no such
character, names, passwords, and path segments are written with it encoded, and no host may hold it
(`Url.unmarked_of_parse`). It stays so when segments are added to the path
(`Url.Unmarked.extend`). So the first question mark of a URL as it is written is the one in front of
its query, and whoever gets a request finds the query behind it
(`Url.Unmarked.exists_requested_eq`).
-/

namespace Reconcile

/-! ### Texts that are put together -/

/-- A question mark is written as it is only where it counts as one of the kept characters; the text
of an encoded byte has none. -/
theorem Percent.mark_not_mem_encode {keep : Char → Bool} {text : List Char}
    (h : keep '?' = false ∨ '?' ∉ text) : '?' ∉ encode keep text := by
  intro hmem
  rcases mem_encode hmem with ⟨htext, hkept⟩ | heq | halnum
  · rcases h with h | h
    · exact Bool.false_ne_true (h.symm.trans hkept)
    · exact h htext
  · exact absurd heq (by decide)
  · exact absurd halnum (by decide)

namespace Pieces

/-- All that stands in a joined text is a separator or comes from one of the pieces. -/
theorem mem_joinWith {separator c : Char} {pieces : List (List Char)}
    (h : c ∈ joinWith separator pieces) : c = separator ∨ ∃ piece ∈ pieces, c ∈ piece := by
  induction pieces with
  | nil => cases h
  | cons piece pieces ih =>
      cases pieces with
      | nil => exact .inr ⟨piece, List.mem_cons_self, h⟩
      | cons next pieces =>
          rw [joinWith_cons_cons, List.mem_append, List.mem_cons] at h
          rcases h with hpiece | heq | hrest
          · exact .inr ⟨piece, List.mem_cons_self, hpiece⟩
          · exact .inl heq
          · exact (ih hrest).imp_right fun ⟨other, hother, hc⟩ =>
              ⟨other, List.mem_cons_of_mem _ hother, hc⟩

/-- A piece holds only characters of the text. -/
theorem mem_of_mem_splitOn {separator c : Char} {text piece : List Char}
    (hpiece : piece ∈ splitOn separator text) (hc : c ∈ piece) : c ∈ text := by
  induction text generalizing piece with
  | nil =>
      obtain rfl := List.mem_singleton.1 hpiece
      exact hc
  | cons d text ih =>
      rw [splitOn] at hpiece
      split at hpiece
      · rcases List.mem_cons.1 hpiece with rfl | hpiece
        · cases hc
        · exact List.mem_cons_of_mem _ (ih hpiece hc)
      · split at hpiece
        next hnil => exact absurd hnil (splitOn_ne_nil separator text)
        next first rest hsplit =>
          rcases List.mem_cons.1 hpiece with rfl | hpiece
          · rcases List.mem_cons.1 hc with rfl | hc
            · exact List.mem_cons_self
            · exact List.mem_cons_of_mem _ (ih (hsplit ▸ List.mem_cons_self) hc)
          · exact List.mem_cons_of_mem _ (ih (hsplit ▸ List.mem_cons_of_mem _ hpiece) hc)

end Pieces

/-- A number is written without a question mark, in any base. -/
theorem mark_not_mem_toDigits (base n : Nat) : '?' ∉ Nat.toDigits base n := by
  have hdigit : ∀ n, '?' ≠ Nat.digitChar n := fun n => (Nat.digitChar_ne '?' (by decide)).symm
  have hcore : ∀ fuel n digits, '?' ∉ digits → '?' ∉ Nat.toDigitsCore base fuel n digits := by
    intro fuel
    induction fuel with
    | zero => exact fun _ _ => id
    | succ fuel ih =>
        intro n digits hdigits
        have hnext : '?' ∉ Nat.digitChar (n % base) :: digits :=
          List.not_mem_cons_of_ne_of_not_mem (hdigit _) hdigits
        rw [Nat.toDigitsCore]
        split
        · exact hnext
        · exact ih _ _ hnext
  exact hcore _ _ _ List.not_mem_nil

/-! ### Hosts -/

/-- What a list is read as, element by element, has been read from one of its elements. -/
theorem exists_of_mem_mapM {α β : Type} {read? : α → Option β} {list : List α} {values : List β}
    (h : list.mapM read? = some values) {value : β} (hvalue : value ∈ values) :
    ∃ a ∈ list, read? a = some value := by
  induction list generalizing values with
  | nil =>
      cases h
      cases hvalue
  | cons a list ih =>
      rw [List.mapM_cons] at h
      obtain ⟨first, hfirst, h⟩ := Option.bind_eq_some_iff.1 h
      obtain ⟨rest, hrest, h⟩ := Option.bind_eq_some_iff.1 h
      cases h
      rcases List.mem_cons.1 hvalue with rfl | hvalue
      · exact ⟨a, List.mem_cons_self, hfirst⟩
      · obtain ⟨b, hb, hread⟩ := ih hrest hvalue
        exact ⟨b, List.mem_cons_of_mem _ hb, hread⟩

namespace Punycode

variable {encoder : Encoder}

/-- None of the 36 digits of Punycode is a question mark. -/
theorem digit_ne {n : Nat} (h : n < 36) : '?' ≠ digit n := by
  have hall : ∀ n < 36, '?' ≠ digit n := by decide
  exact hall n h

/-- A digit of Punycode ends a number from 26 on at the latest, whatever the bias is. -/
theorem threshold_le (position bias : Nat) : threshold position bias ≤ 26 := by
  rw [threshold]
  omega

/-- A number is written in Punycode without a question mark: each of its digits is below 36. -/
theorem mark_not_mem_encodeNumber (bias position n : Nat) :
    '?' ∉ encodeNumber bias position n := by
  induction position, n using encodeNumber.induct bias with
  | case1 position n t hlt =>
      have ht : t ≤ 26 := threshold_le position bias
      rw [encodeNumber, if_pos hlt]
      exact List.not_mem_cons_of_ne_of_not_mem (digit_ne (by omega)) List.not_mem_nil
  | case2 position n t hlt ih =>
      have ht : t ≤ 26 := threshold_le position bias
      have hmod : (n - t) % (36 - t) < 36 - t := Nat.mod_lt _ (by omega)
      rw [encodeNumber, if_neg hlt]
      refine List.not_mem_cons_of_ne_of_not_mem (digit_ne ?_) ih
      change t + (n - t) % (36 - t) < 36
      omega

/-- Giving one number for each place of a label keeps what is written free of question marks. -/
theorem mark_not_mem_giveAll (h : '?' ∉ encoder.written) (number : Nat) (label : List Char) :
    '?' ∉ (encoder.giveAll number label).written := by
  rw [Encoder.giveAll]
  induction label generalizing encoder with
  | nil => exact h
  | cons c label ih =>
      rw [List.foldl_cons]
      apply ih
      split
      · exact h
      split
      · exact List.not_mem_append h (mark_not_mem_encodeNumber _ _ _)
      · exact h

/-- So does giving all numbers, one character of the label after the other. -/
theorem mark_not_mem_giveNumbers (h : '?' ∉ encoder.written) (label : List Char)
    (numbers : List Nat) (reached : Nat) :
    '?' ∉ (encoder.giveNumbers label reached numbers).written := by
  induction numbers generalizing encoder reached with
  | nil => exact h
  | cons number numbers ih =>
      have hgiven := @mark_not_mem_giveAll
        { encoder with distance := encoder.distance + (number - reached) * (encoder.count + 1) }
        h number label
      rw [Encoder.giveNumbers]
      apply ih
      exact hgiven

/-- A label is encoded without a question mark if it has none: the characters that are kept are its
own, and the rest are digits. -/
theorem mark_not_mem_encode {label : List Char} (h : '?' ∉ label) : '?' ∉ encode label := by
  rw [encode]
  refine mark_not_mem_giveNumbers ?_ _ _ _
  dsimp only
  split
  · exact List.not_mem_nil
  · refine List.not_mem_append (fun hmem => h (List.mem_filter.1 hmem).1) ?_
    decide

end Punycode

namespace Domain

/-- What comes out of folding has no question mark, since the forbidden characters of a host are
refused there. -/
theorem mark_not_mem_fold {text folded : List Char} (h : fold? text = some folded) :
    '?' ∉ folded := by
  obtain ⟨mapped, -, hfolded⟩ := Option.bind_eq_some_iff.1 h
  dsimp only at hfolded
  split at hfolded
  · cases hfolded
  next hallowed =>
    cases hfolded
    exact fun hmem => hallowed (List.any_eq_true.2 ⟨_, hmem, by decide⟩)

/-- A label is written without a question mark if the text that it is read from has none. -/
theorem mark_not_mem_written {text : List Char} {label : Label}
    (h : Label.ofText? text = some label) (htext : '?' ∉ text) : '?' ∉ label.written := by
  rw [Label.ofText?] at h
  split at h
  · obtain ⟨_, -, rfl⟩ := Option.map_eq_some_iff.1 h
    exact htext
  split at h
  · cases h
    exact htext
  split at h
  · cases h
  · cases h
    exact List.not_mem_append (by decide) (Punycode.mark_not_mem_encode htext)

/-- A domain name holds no question mark. -/
theorem mark_not_mem_toAscii {name ascii : List Char} (h : toAscii? name = some ascii) :
    '?' ∉ ascii := by
  obtain ⟨folded, hfolded, h⟩ := Option.bind_eq_some_iff.1 h
  obtain ⟨labels, hlabels, h⟩ := Option.bind_eq_some_iff.1 h
  split at h
  · cases h
    intro hmem
    rcases Pieces.mem_joinWith hmem with heq | ⟨written, hwritten, hc⟩
    · exact absurd heq (by decide)
    · obtain ⟨label, hlabel, rfl⟩ := List.mem_map.1 hwritten
      obtain ⟨text, htext, hof⟩ := exists_of_mem_mapM hlabels hlabel
      refine mark_not_mem_written hof (fun hmark => ?_) hc
      exact mark_not_mem_fold hfolded (Pieces.mem_of_mem_splitOn htext hmark)
  · cases h

end Domain

namespace Host

/-- An address of four bytes is written with digits and points. -/
theorem mark_not_mem_renderIpv4 (address : Nat) : '?' ∉ renderIpv4 address := by
  intro hmem
  rcases Pieces.mem_joinWith hmem with heq | ⟨part, hpart, hc⟩
  · exact absurd heq (by decide)
  · simp only [List.mem_cons, List.not_mem_nil, or_false] at hpart
    rcases hpart with rfl | rfl | rfl | rfl <;> exact mark_not_mem_toDigits 10 _ hc

/-- The pieces of an address in brackets are written with digits and colons. -/
theorem mark_not_mem_renderPieces (pieces : List Nat) : '?' ∉ renderPieces pieces := by
  intro hmem
  rcases Pieces.mem_joinWith hmem with heq | ⟨piece, hpiece, hc⟩
  · exact absurd heq (by decide)
  · obtain ⟨n, -, rfl⟩ := List.mem_map.1 hpiece
    exact mark_not_mem_toDigits 16 n hc

/-- An address of eight pieces is written without a question mark, shortened or not. -/
theorem mark_not_mem_renderIpv6 (pieces : List Nat) : '?' ∉ renderIpv6 pieces := by
  rw [renderIpv6]
  refine List.not_mem_cons_of_ne_of_not_mem (by decide) (List.not_mem_append ?_ (by decide))
  split
  · exact List.not_mem_append (List.not_mem_append (mark_not_mem_renderPieces _) (by decide))
      (mark_not_mem_renderPieces _)
  · exact mark_not_mem_renderPieces _

/-- A host in brackets is an address that is written anew. -/
theorem mark_not_mem_bracketed {inside host : List Char} (h : bracketed inside = .ok host) :
    '?' ∉ host := by
  rw [bracketed] at h
  split at h
  · split at h
    · cases h
      exact mark_not_mem_renderIpv6 _
    · cases h
  · cases h

/-- The host of a URL of a special scheme holds no question mark. -/
theorem mark_not_mem_parse {text host : List Char} (h : parse text = .ok host) : '?' ∉ host := by
  rw [parse.eq_def] at h
  split at h
  · exact mark_not_mem_bracketed h
  · dsimp only at h
    split at h
    · cases h
    next name hname =>
      obtain ⟨_, -, hascii⟩ := Option.bind_eq_some_iff.1 hname
      split at h
      · cases h
      split at h
      · split at h
        · cases h
          exact mark_not_mem_renderIpv4 _
        · cases h
      · cases h
        exact Domain.mark_not_mem_toAscii hascii

/-- Nor does that of any other URL. -/
theorem mark_not_mem_parseOpaque {text host : List Char} (h : parseOpaque text = .ok host) :
    '?' ∉ host := by
  rw [parseOpaque.eq_def] at h
  split at h
  · exact mark_not_mem_bracketed h
  · split at h
    · cases h
    next hallowed =>
      cases h
      refine Percent.mark_not_mem_encode (.inr fun hmem => ?_)
      exact hallowed (List.any_eq_true.2 ⟨_, hmem, by decide⟩)

end Host

/-! ### Readings that succeed -/

section

variable {ε α β : Type} {f : α → Except ε β} {b : β}

/-- A computation in two steps comes to a value if the first one does, and the second one from
there. -/
theorem exists_of_bind_eq_ok {x : Except ε α} (h : (x >>= f) = .ok b) :
    ∃ a, x = .ok a ∧ f a = .ok b := by
  cases x with
  | error error => cases h
  | ok a => exact ⟨a, rfl, h⟩

/-- The same where the first step depends on a condition, as reading a host does on its scheme. -/
theorem exists_of_ite_bind_eq_ok {c : Prop} [Decidable c] {x y : Except ε α}
    (h : (if c then x >>= f else y >>= f) = .ok b) :
    ∃ a, (x = .ok a ∨ y = .ok a) ∧ f a = .ok b := by
  split at h
  · obtain ⟨a, hx, h⟩ := exists_of_bind_eq_ok h
    exact ⟨a, .inl hx, h⟩
  · obtain ⟨a, hy, h⟩ := exists_of_bind_eq_ok h
    exact ⟨a, .inr hy, h⟩

/-- A reading that succeeds has passed its guards. -/
theorem eq_ok_of_guard {c : Prop} [Decidable c] {error : ε} {x : Except ε β}
    (h : (if c then Except.error error >>= f else x) = .ok b) : x = .ok b := by
  split at h
  · cases h
  · exact h

end

namespace Url

/-! ### Paths -/

/-- Whether no segment of a path holds a question mark. -/
def MarkFree (path : List (List Char)) : Prop :=
  ∀ segment ∈ path, '?' ∉ segment

/-- The path without segments. -/
theorem MarkFree.nil : MarkFree [] :=
  fun _ h => nomatch h

/-- A segment in front. -/
theorem MarkFree.cons {segment : List Char} {path : List (List Char)} (hsegment : '?' ∉ segment)
    (hpath : MarkFree path) : MarkFree (segment :: path) :=
  List.forall_mem_cons.2 ⟨hsegment, hpath⟩

/-- Paths are built up last segment first and turned around in the end. -/
theorem MarkFree.reverse {path : List (List Char)} (h : MarkFree path) : MarkFree path.reverse :=
  fun segment hsegment => h segment (List.mem_reverse.1 hsegment)

/-- A segment at the end. -/
theorem MarkFree.concat {path : List (List Char)} (hpath : MarkFree path) {segment : List Char}
    (hsegment : '?' ∉ segment) : MarkFree (path ++ [segment]) :=
  List.forall_mem_append.2 ⟨hpath, List.forall_mem_singleton.2 hsegment⟩

/-- Segments that are left out do no harm. -/
theorem MarkFree.sublist {path part : List (List Char)} (h : MarkFree path)
    (hpart : part.Sublist path) : MarkFree part :=
  fun segment hsegment => h segment (hpart.subset hsegment)

/-- Going up leaves segments out. -/
theorem dropSegment_sublist (path : List (List Char)) : (dropSegment path).Sublist path := by
  cases path with
  | nil => exact .refl _
  | cons segment path =>
      rw [dropSegment]
      split
      · exact .refl _
      · exact List.sublist_cons_self _ _

/-- Putting segments behind a path keeps it free of question marks, because they are encoded first.
-/
theorem markFree_resolveSegments {adjust : Bool → List Char → List Char}
    (hadjust : ∀ isFirst segment, '?' ∉ segment → '?' ∉ adjust isFirst segment)
    {path : List (List Char)} (hpath : MarkFree path) (segments : List (List Char)) :
    MarkFree (resolveSegments adjust path segments) := by
  induction segments generalizing path with
  | nil => exact hpath
  | cons segment segments ih =>
      have hwritten : '?' ∉ Percent.encode Percent.keepInPath segment :=
        Percent.mark_not_mem_encode (.inl (by decide))
      rw [resolveSegments]
      dsimp only
      split
      · have hpath' : MarkFree (if plainDots (Percent.encode Percent.keepInPath segment) = ['.']
            then path else dropSegment path) := by
          split
          · exact hpath
          · exact hpath.sublist (dropSegment_sublist path)
        split
        · exact hpath'.cons List.not_mem_nil
        · exact ih hpath'
      · exact ih (hpath.cons (hadjust _ _ hwritten))

/-- A path that is read has no question mark, be there one in its text or not. -/
theorem markFree_parsePath (special : Bool) (text : List Char) :
    MarkFree (parsePath special text) :=
  (markFree_resolveSegments (fun _ _ => id) .nil _).reverse

/-- Neither has one that is read behind an authority. -/
theorem markFree_parsePathAfterAuthority (special : Bool) (text : List Char) :
    MarkFree (parsePathAfterAuthority special text) := by
  cases text with
  | nil => cases special <;> simp [MarkFree, parsePathAfterAuthority]
  | cons c text => exact markFree_parsePath _ _

/-- A drive is written with its letter and a colon. -/
theorem mark_not_mem_writeDrive {drive : List Char} (h : '?' ∉ drive) : '?' ∉ writeDrive drive :=
  List.not_mem_append (fun hmem => h (List.mem_of_mem_take hmem)) (by decide)

/-- Neither has the path of a file. -/
theorem markFree_parseFilePath (text : List Char) : MarkFree (parseFilePath text) := by
  refine (markFree_resolveSegments (fun isFirst segment h => ?_) .nil _).reverse
  split
  · exact mark_not_mem_writeDrive h
  · exact h

/-- Dropping the empty segments in front leaves segments out. -/
theorem dropEmptyFront_sublist (path : List (List Char)) : (dropEmptyFront path).Sublist path := by
  induction path using dropEmptyFront.induct with
  | case1 segment rest ih =>
      rw [dropEmptyFront]
      exact ih.trans (List.sublist_cons_self _ _)
  | case2 path hne => rw [dropEmptyFront]; exact hne

/-! ### The parts in front of a query -/

/-- **Whether no part of a URL in front of its query holds a question mark.** -/
structure Unmarked (url : Url) : Prop where
  /-- The scheme has none. -/
  scheme : '?' ∉ url.scheme.toList
  /-- The user information has none. -/
  userinfo : '?' ∉ url.userinfo
  /-- The host has none, if there is one. -/
  host : ∀ host, url.host = some host → '?' ∉ host
  /-- The path as it is printed has none. -/
  path : '?' ∉ printPath url.path

/-- A path is written without a question mark exactly if none of its segments has one. -/
theorem mark_not_mem_printPath_iff {path : List (List Char)} :
    '?' ∉ printPath (.segments path) ↔ MarkFree path := by
  constructor
  · intro h segment hsegment hmark
    exact h (List.mem_flatMap.2 ⟨segment, hsegment, List.mem_cons_of_mem _ hmark⟩)
  · intro h hmem
    obtain ⟨segment, hsegment, hc⟩ := List.mem_flatMap.1 hmem
    rcases List.mem_cons.1 hc with heq | hc
    · exact absurd heq (by decide)
    · exact h segment hsegment hc

/-- Query and fragment stand behind what counts. -/
theorem Unmarked.withQueryAndFragment {url : Url} (h : url.Unmarked) (text : List Char) :
    (url.withQueryAndFragment text).Unmarked :=
  ⟨h.scheme, h.userinfo, h.host, h.path⟩

/-- No other character becomes a question mark in lower case. -/
theorem toLower_ne_mark {c : Char} (h : '?' ≠ c) : '?' ≠ c.toLower := by
  unfold Char.toLower
  split
  next hupper =>
    intro heq
    have hval := congrArg (fun d : Char => d.val.toNat) heq
    have hlow := UInt32.le_iff_toNat_le.1 hupper.1
    have hhigh := UInt32.le_iff_toNat_le.1 hupper.2
    simp only [UInt32.toNat_add, Char.reduceVal, UInt32.reduceToNat, UInt32.reduceSub] at *
    omega
  next => exact h

/-- A scheme is made of letters, digits and three other characters. -/
theorem mark_not_mem_scheme {text rest : List Char} {scheme : String}
    (h : scheme? text = some (scheme, rest)) : '?' ∉ scheme.toList := by
  rw [scheme?] at h
  split at h
  next c name _ rest heq =>
    split at h
    next hallowed =>
      cases h
      rw [String.toList_ofList]
      intro hmem
      obtain ⟨d, hd, hlower⟩ := List.mem_map.1 hmem
      refine absurd hlower (toLower_ne_mark ?_).symm
      rintro rfl
      rcases List.mem_cons.1 hd with rfl | hd
      · exact absurd hallowed.1 (by decide)
      · exact absurd (List.all_eq_true.1 hallowed.2 _ hd) (by decide)
    · cases h
  · cases h

/-- Name and password are encoded, with a colon between them. -/
theorem mark_not_mem_encodeUserinfo (text : List Char) : '?' ∉ encodeUserinfo text := by
  have hencode : ∀ text, '?' ∉ Percent.encode Percent.keepInUserinfo text :=
    fun _ => Percent.mark_not_mem_encode (.inl (by decide))
  rw [encodeUserinfo]
  split
  · exact hencode _
  · exact hencode _
  · exact List.not_mem_append (hencode _)
      (List.not_mem_cons_of_ne_of_not_mem (by decide) (hencode _))

/-- A name and password that are read have no question mark. -/
theorem mark_not_mem_parseUserinfo {special : Bool} {text userinfo rest : List Char}
    (h : parseUserinfo special text = .ok (userinfo, rest)) : '?' ∉ userinfo := by
  rw [parseUserinfo] at h
  dsimp only at h
  split at h
  · cases h
    exact List.not_mem_nil
  · split at h
    · cases h
    · cases h
      exact mark_not_mem_encodeUserinfo _

/-- What is read behind two slashes has no question mark in front of its query: the host refuses it,
the other parts encode it. -/
theorem unmarked_of_parseAfterSlashes {scheme : String} {text : List Char} {url : Url}
    (hscheme : '?' ∉ scheme.toList) (h : parseAfterSlashes scheme text = .ok url) :
    url.Unmarked := by
  rw [parseAfterSlashes] at h
  obtain ⟨⟨userinfo, rest⟩, huserinfo, h⟩ := exists_of_bind_eq_ok h
  obtain ⟨host, hhost, h⟩ := exists_of_ite_bind_eq_ok (eq_ok_of_guard h)
  obtain ⟨⟨port, tail⟩, -, h⟩ := exists_of_bind_eq_ok (eq_ok_of_guard h)
  have hurl := eq_ok_of_guard h
  cases hurl
  refine Unmarked.withQueryAndFragment
    ⟨hscheme, mark_not_mem_parseUserinfo huserinfo, ?_, mark_not_mem_printPath_iff.2 ?_⟩ _
  · rintro _ ⟨⟩
    exact hhost.elim Host.mark_not_mem_parse Host.mark_not_mem_parseOpaque
  · exact markFree_parsePathAfterAuthority _ _

/-- The host of a file is read like any other. -/
theorem mark_not_mem_parseFileHost {text rest host : List Char}
    (h : parseFileHost text = .ok (some host, rest)) : '?' ∉ host := by
  rw [parseFileHost] at h
  dsimp only at h
  split at h
  · cases h
  split at h
  · cases h
  obtain ⟨name, hname, h⟩ := exists_of_bind_eq_ok h
  obtain ⟨hhost, -⟩ := Prod.mk.inj (Except.ok.inj h)
  split at hhost
  · cases hhost
  · cases hhost
    exact Host.mark_not_mem_parse hname

/-- So is the one that is found behind the slashes in front of a file. -/
theorem mark_not_mem_parseFileFront {text rest host : List Char}
    (h : parseFileFront text = .ok (some host, rest)) : '?' ∉ host := by
  rw [parseFileFront.eq_def] at h
  split at h
  next after =>
    split at h
    · cases hfront : parseFileHost after with
      | error error =>
          rw [hfront] at h
          cases h
      | ok front =>
          obtain ⟨name, tail⟩ := front
          rw [hfront] at h
          obtain ⟨rfl, -⟩ := Prod.mk.inj (Except.ok.inj h)
          exact mark_not_mem_parseFileHost hfront
    · cases h
  · cases h

/-- The URL of a file has no question mark in front of its query. -/
theorem unmarked_of_parseFile {text : List Char} {url : Url} (h : parseFile text = .ok url) :
    url.Unmarked := by
  rw [parseFile] at h
  obtain ⟨⟨host, rest⟩, hhost, h⟩ := exists_of_bind_eq_ok h
  cases h
  have hscheme : '?' ∉ "file".toList := by decide
  refine Unmarked.withQueryAndFragment
    ⟨hscheme, List.not_mem_nil, ?_, mark_not_mem_printPath_iff.2 ?_⟩ _
  · rintro _ ⟨⟩
    split
    · exact List.not_mem_nil
    · cases host with
      | none => exact List.not_mem_nil
      | some host => exact mark_not_mem_parseFileFront hhost
  · exact (markFree_parseFilePath _).sublist (dropEmptyFront_sublist _)

/-- Neither has a URL of a scheme that is not special. -/
theorem unmarked_of_parseOther {scheme : String} {text : List Char} {url : Url}
    (hscheme : '?' ∉ scheme.toList) (h : parseOther scheme text = .ok url) :
    url.Unmarked := by
  rw [parseOther.eq_def] at h
  split at h
  · exact unmarked_of_parseAfterSlashes hscheme h
  · cases h
    have hhost : ∀ host : List Char, none = some host → '?' ∉ host := nofun
    refine Unmarked.withQueryAndFragment ⟨hscheme, List.not_mem_nil, hhost, ?_⟩ _
    split
    · exact mark_not_mem_printPath_iff.2 (markFree_parsePath _ _)
    · refine Percent.mark_not_mem_encode (.inr fun hmem => ?_)
      change '?' ∈ (text.span fun c => !endsPath c).1 at hmem
      rw [List.span_eq_takeWhile_dropWhile] at hmem
      exact absurd (List.mem_takeWhile_imp hmem) (by decide)

/-- **A URL that is read has no question mark in front of its query.** -/
theorem unmarked_of_parse {text : String} {url : Url} (h : parse text = .ok url) :
    url.Unmarked := by
  rw [parse] at h
  split at h
  · cases h
  next scheme rest hscheme =>
    have hmark := mark_not_mem_scheme hscheme
    split at h
    · exact unmarked_of_parseFile h
    split at h
    · exact unmarked_of_parseAfterSlashes hmark h
    · exact unmarked_of_parseOther hmark h

/-! ### Adding to a path -/

/-- Dropping an empty segment at the end leaves a segment out. -/
theorem popIfEmpty_sublist (path : List (List Char)) : (popIfEmpty path).Sublist path := by
  rw [popIfEmpty]
  split
  next heq =>
    rw [← List.reverse_sublist, List.reverse_reverse, heq]
    exact List.sublist_cons_self _ _
  · exact .refl _

/-- A segment that is added is free of question marks if it is so itself. -/
theorem markFree_appendSegment {path : List (List Char)} (h : MarkFree path) {segment : List Char}
    (hsegment : '?' ∉ segment) : MarkFree (appendSegment path segment) := by
  rw [appendSegment]
  split
  · exact MarkFree.nil.cons hsegment
  · exact h.concat hsegment

/-- Two points at the end only take a segment away. -/
theorem markFree_goUp {path : List (List Char)} (h : MarkFree path) : MarkFree (goUp path) := by
  rw [goUp]
  split
  · exact MarkFree.nil.cons List.not_mem_nil
  · exact (h.reverse.sublist (dropSegment_sublist _)).reverse.concat List.not_mem_nil

/-- A drive is a letter with a colon or a bar. -/
theorem mark_not_mem_of_isDrive {segment : List Char} (h : isDrive segment = true) :
    '?' ∉ segment := by
  rw [isDrive.eq_def] at h
  split at h
  next letter mark =>
    simp only [Bool.and_eq_true, Bool.or_eq_true, beq_iff_eq] at h
    rintro hmem
    rw [List.mem_cons, List.mem_singleton] at hmem
    rcases hmem with rfl | rfl
    · exact absurd h.1 (by decide)
    · exact h.2.elim (by decide) (by decide)
  · cases h

/-- Any text can be added as a segment: what is not a drive is encoded. -/
theorem markFree_pushSegment (scheme : String) {path : List (List Char)} (h : MarkFree path)
    (segment : String) : MarkFree (pushSegment scheme path segment) := by
  rw [pushSegment]
  split
  · exact h
  dsimp only
  split
  · exact markFree_appendSegment h List.not_mem_nil
  split
  · exact markFree_goUp h
  split
  next hfile =>
    exact MarkFree.nil.cons (mark_not_mem_writeDrive (mark_not_mem_of_isDrive hfile.2.2))
  · exact markFree_appendSegment h (not_mem_encode (by decide) _)

namespace Unmarked

variable {url : Url}

/-- Dropping an empty segment at the end keeps a URL unmarked. -/
theorem trimPath (h : url.Unmarked) : url.trimPath.Unmarked := by
  rw [Url.trimPath]
  split
  · exact h
  next path hpath =>
    have hfree : MarkFree path := mark_not_mem_printPath_iff.1 (hpath ▸ h.path)
    exact ⟨h.scheme, h.userinfo, h.host,
      mark_not_mem_printPath_iff.2 (hfree.sublist (popIfEmpty_sublist path))⟩

/-- Segments that are added to a path hold no question mark. -/
theorem extend (h : url.Unmarked) (segments : List String) : (url.extend segments).Unmarked := by
  rw [Url.extend]
  split
  · exact h
  next path hpath =>
    have hfree : MarkFree path := mark_not_mem_printPath_iff.1 (hpath ▸ h.path)
    have hextended : MarkFree (segments.foldl (pushSegment url.scheme) path) := by
      clear hpath
      induction segments generalizing path with
      | nil => exact hfree
      | cons segment segments ih => exact ih _ (markFree_pushSegment url.scheme hfree segment)
    exact ⟨h.scheme, h.userinfo, h.host, mark_not_mem_printPath_iff.2 hextended⟩

/-- What is added to the query stands behind what counts. -/
theorem addQuery (h : url.Unmarked) (pairs : List (String × String)) :
    (url.addQuery pairs).Unmarked :=
  ⟨h.scheme, h.userinfo, h.host, h.path⟩

/-- Leaving out name and password keeps a URL unmarked. -/
theorem withoutUserinfo (h : url.Unmarked) : url.withoutUserinfo.Unmarked := by
  rw [Url.withoutUserinfo]
  dsimp only
  split
  · exact ⟨h.scheme, List.not_mem_nil, h.host, h.path⟩
  · exact h

/-- The authority of such a URL is written without a question mark. -/
theorem mark_not_mem_printAuthority (h : url.Unmarked) : '?' ∉ url.printAuthority := by
  rw [printAuthority]
  split
  next host hhost =>
    have huserinfo : '?' ∉ if url.userinfo.isEmpty then [] else url.userinfo ++ ['@'] := by
      split
      · exact List.not_mem_nil
      · exact List.not_mem_append h.userinfo (by decide)
    have hport : '?' ∉ url.port.elim [] fun port => ':' :: Nat.toDigits 10 port := by
      cases url.port with
      | none => exact List.not_mem_nil
      | some port =>
          exact List.not_mem_cons_of_ne_of_not_mem (by decide) (mark_not_mem_toDigits 10 port)
    refine List.not_mem_cons_of_ne_of_not_mem (by decide) ?_
    refine List.not_mem_cons_of_ne_of_not_mem (by decide) ?_
    exact List.not_mem_append (List.not_mem_append huserinfo (h.host host hhost)) hport
  · split <;> decide

/-- **The first question mark of a URL that is requested is the one in front of its query.** -/
theorem exists_requested_eq (h : url.Unmarked) :
    ∃ front, '?' ∉ front ∧
      url.requested = String.ofList (front ++ url.query.elim [] ('?' :: ·)) := by
  have hbare := h.withoutUserinfo
  have hquery : url.withoutUserinfo.query = url.query := by
    obtain ⟨userinfo, heq⟩ := url.exists_withoutUserinfo_eq
    rw [heq]
  refine ⟨url.withoutUserinfo.scheme.toList ++
    ':' :: (url.withoutUserinfo.printAuthority ++ printPath url.withoutUserinfo.path), ?_, ?_⟩
  · refine List.not_mem_append hbare.scheme ?_
    refine List.not_mem_cons_of_ne_of_not_mem (by decide) ?_
    exact List.not_mem_append hbare.mark_not_mem_printAuthority hbare.path
  · rw [requested, render, print, ← hquery]
    dsimp only [withoutFragment]
    rw [Option.elim_none, List.append_nil, List.append_assoc, List.append_assoc, List.cons_append,
      List.append_assoc]
    rfl

end Unmarked

end Url

end Reconcile
