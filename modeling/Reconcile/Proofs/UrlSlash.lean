import Reconcile.Proofs.QueryMark

/-!
# A slash at the end of a URL

The text of a URL and the same text with a slash behind it are read alike up to the path. The path
ends in an empty segment if the text ends in a slash, and mostly only then: it takes one more slash
as `Url.TakesSlash` says. The parts of a URL are followed one after the other, each with a lemma
that says how it is read when there is one more character behind the text, and the slash is found
again as one more segment, which is empty.

The texts that count are those that end in a character that is read as such (`Url.endsPlainly`). A
backslash is read as a slash, and blanks and controls at the end are dropped if nothing is behind
them, but not in front of a slash. Tabs and line ends are dropped in either place.

The main result is `Url.exists_parse_concat`.
-/

namespace Reconcile

/-- A text is cut where it was if one more character follows that the front does not take either,
or if it was cut before its end. -/
theorem span_concat {p : Char → Bool} (text : List Char) {c : Char}
    (h : (text.span p).2 ≠ [] ∨ p c = false) :
    (text ++ [c]).span p = ((text.span p).1, (text.span p).2 ++ [c]) := by
  simp only [List.span_eq_takeWhile_dropWhile] at h ⊢
  induction text with
  | nil =>
      have hc : p c = false := h.resolve_left fun hnil => hnil rfl
      simp [hc]
  | cons d text ih =>
      cases hd : p d with
      | false => simp [hd]
      | true =>
          rw [List.dropWhile_cons_of_pos hd] at h
          obtain ⟨htake, hdrop⟩ := Prod.mk.inj (ih h)
          rw [List.cons_append, List.takeWhile_cons_of_pos hd, List.dropWhile_cons_of_pos hd,
            List.takeWhile_cons_of_pos hd, List.dropWhile_cons_of_pos hd, htake, hdrop]

/-- A text all of whose characters are taken is not cut. -/
theorem span_eq_of_forall {p : Char → Bool} {text : List Char} (h : ∀ c ∈ text, p c = true) :
    text.span p = (text, []) := by
  rw [List.span_eq_takeWhile_dropWhile, List.takeWhile_eq_self_iff.2 h,
    List.dropWhile_eq_nil_iff.2 h]

/-- Dropping characters from the front spares a last character that is not one of them. -/
theorem dropWhile_concat {p : Char → Bool} {c : Char} (h : ¬p c = true) (text : List Char) :
    (text ++ [c]).dropWhile p = text.dropWhile p ++ [c] := by
  rw [List.dropWhile_append]
  split
  next hempty => rw [List.isEmpty_iff.1 hempty, List.dropWhile_cons_of_neg h, List.nil_append]
  · rfl

namespace Pieces

/-- A separator at the end makes one more piece, which is empty. -/
theorem splitOn_concat_self (separator : Char) (text : List Char) :
    splitOn separator (text ++ [separator]) = splitOn separator text ++ [[]] := by
  induction text with
  | nil => simp [splitOn]
  | cons c text ih =>
      rw [List.cons_append, splitOn, splitOn, ih]
      split
      · rfl
      · cases hsplit : splitOn separator text with
        | nil => exact absurd hsplit (splitOn_ne_nil separator text)
        | cons piece pieces => rfl

/-- Any other character at the end belongs to the last piece. -/
theorem exists_splitOn_concat {separator c : Char} (h : c ≠ separator) (text : List Char) :
    ∃ pieces last, last ≠ [] ∧ splitOn separator (text ++ [c]) = pieces ++ [last] := by
  induction text with
  | nil => exact ⟨[], [c], List.cons_ne_nil _ _, by simp [splitOn, h]⟩
  | cons d text ih =>
      obtain ⟨pieces, last, hlast, hsplit⟩ := ih
      rw [List.cons_append, splitOn, hsplit]
      split
      · exact ⟨[] :: pieces, last, hlast, rfl⟩
      · cases pieces with
        | nil => exact ⟨[], d :: last, List.cons_ne_nil _ _, rfl⟩
        | cons piece pieces => exact ⟨(d :: piece) :: pieces, last, hlast, rfl⟩

end Pieces

namespace Url

/-! ### Reading a text with a slash behind it -/

/-- A character that is no blank and no control stays at the end of a text. -/
theorem clean_concat {c : Char} (h : 0x20 < c.toNat) (text : List Char) :
    clean (text ++ [c]) =
      ((text ++ [c]).dropWhile fun d => decide (d.toNat ≤ 0x20)).filter fun d => !isDropped d := by
  have hc : ¬(fun d : Char => decide (d.toNat ≤ 0x20)) c = true := by simp [h]
  rw [clean, dropWhile_concat hc, List.reverse_concat,
    List.dropWhile_cons_of_neg (p := fun d : Char => decide (d.toNat ≤ 0x20)) hc,
    List.reverse_cons, List.reverse_reverse]

/-- What is dropped everywhere is dropped at the end too. -/
theorem toNat_le_of_isDropped {d : Char} (h : isDropped d = true) : d.toNat ≤ 0x20 := by
  simp only [isDropped, Bool.or_eq_true, beq_iff_eq] at h
  rcases h with (rfl | rfl) | rfl <;> decide

/-- A text that ends in such a character, but for what is dropped everywhere, ends in it without its
blanks, and a slash behind it is left. -/
theorem exists_clean_concat_eq {c : Char} (h : 0x20 < c.toNat) (text : List Char)
    {dropped : List Char} (hdropped : ∀ d ∈ dropped, isDropped d = true) :
    ∃ front, clean (text ++ [c] ++ dropped) = front ++ [c] ∧
      clean (text ++ [c] ++ dropped ++ ['/']) = front ++ [c] ++ ['/'] := by
  -- Blanks go from both ends, line ends and tabs from everywhere. The character stays, so nothing
  -- in front of it goes at the back, and the slash keeps what is behind it from going as a blank.
  let outer (d : Char) : Bool := decide (d.toNat ≤ 0x20)
  have hc : ¬outer c = true := by simp [outer, h]
  have hslash : ¬outer '/' = true := by decide
  have hkept : isDropped c = false :=
    Bool.eq_false_iff.2 fun hc => absurd (toNat_le_of_isDropped hc) (Nat.not_le.2 h)
  have hslashKept : isDropped '/' = false := by decide
  have houter : ∀ d ∈ dropped.reverse, outer d = true := fun d hd =>
    decide_eq_true (toNat_le_of_isDropped (hdropped d (List.mem_reverse.1 hd)))
  have hnone : dropped.filter (fun d => !isDropped d) = [] :=
    List.filter_eq_nil_iff.2 fun d hd => by simp [hdropped d hd]
  have hfront : (text ++ [c] ++ dropped).dropWhile outer =
      text.dropWhile outer ++ [c] ++ dropped := by
    rw [List.dropWhile_append, dropWhile_concat hc, if_neg (by simp)]
  refine ⟨(text.dropWhile outer).filter fun d => !isDropped d, ?_, ?_⟩
  · change ((((text ++ [c] ++ dropped).dropWhile outer).reverse.dropWhile outer).reverse).filter
      (fun d => !isDropped d) = _
    rw [hfront, List.reverse_append, List.dropWhile_append_of_pos houter, List.reverse_concat,
      List.dropWhile_cons_of_neg hc, List.reverse_cons, List.reverse_reverse, List.filter_append]
    simp [hkept]
  · rw [clean_concat (by decide), dropWhile_concat hslash, hfront]
    simp only [List.filter_append, hnone, List.append_nil]
    simp [hkept, hslashKept]

/-- The scheme in front of a text does not depend on its end. -/
theorem scheme?_concat {text rest : List Char} {scheme : String}
    (h : scheme? text = some (scheme, rest)) (c : Char) :
    scheme? (text ++ [c]) = some (scheme, rest ++ [c]) := by
  rw [scheme?] at h ⊢
  split at h
  next first name mark after heq =>
    have hspan : (text ++ [c]).span (· ≠ ':') = (first :: name, mark :: (after ++ [c])) := by
      rw [span_concat text (.inl (by rw [heq]; exact List.cons_ne_nil _ _)), heq]
      rfl
    rw [hspan]
    dsimp only
    split at h
    next hallowed =>
      obtain ⟨rfl, rfl⟩ := Prod.mk.inj (Option.some.inj h)
      rw [if_pos hallowed]
    · cases h
  · cases h

section Authority

variable {special : Bool}

/-- A name and password are read as before, unless a slash shows that there is no host. -/
theorem parseUserinfo_concat {text rest userinfo : List Char}
    (h : parseUserinfo special text = .ok (userinfo, rest)) (hrest : rest ≠ []) :
    parseUserinfo special (text ++ ['/']) = .ok (userinfo, rest ++ ['/']) := by
  have hspan := span_concat text (c := '/') (p := fun c => !endsAuthority special c)
    (.inr (by cases special <;> decide))
  rw [parseUserinfo] at h ⊢
  dsimp only at h ⊢
  rw [hspan]
  dsimp only
  split at h
  · cases h
    rfl
  next before after _ =>
    split at h
    · cases h
    next hhost =>
      cases h
      -- without a slash there would be an empty text behind the at sign
      have hafter : ¬(before.isEmpty = true ∧ after.isEmpty = true ∧
          (!((text.span fun c => !endsAuthority special c).2 ++ ['/']).isEmpty) = true) := by
        rintro ⟨hbefore, hempty, -⟩
        refine hhost ⟨hbefore, hempty, ?_⟩
        cases hend : (text.span fun c => !endsAuthority special c).2 with
        | nil => exact absurd (by rw [hend, List.isEmpty_iff.1 hempty]; rfl) hrest
        | cons c rest => rfl
      rw [if_neg hafter, List.append_assoc]

/-- A slash behind a text leaves its host as it is. -/
theorem splitHost_concat (inBrackets : Bool) (text : List Char) :
    splitHost special inBrackets (text ++ ['/']) =
      ((splitHost special inBrackets text).1, (splitHost special inBrackets text).2 ++ ['/']) := by
  induction text generalizing inBrackets with
  | nil => simp [splitHost, endsAuthority, isSlash]
  | cons c text ih =>
      rw [List.cons_append, splitHost, splitHost]
      split
      · rfl
      · simp only [ih]

/-- A slash behind a text leaves its port as it is. -/
theorem parsePort_concat {text rest : List Char} {port : Option Nat}
    (h : parsePort text = .ok (port, rest)) :
    parsePort (text ++ ['/']) = .ok (port, rest ++ ['/']) := by
  rw [parsePort.eq_def] at h
  split at h
  next text =>
    have hspan := span_concat text (c := '/') (p := Char.isDigit) (.inr (by decide))
    rw [List.cons_append, parsePort]
    dsimp only at h ⊢
    rw [hspan]
    split at h
    next hhead =>
      -- what follows the port ends it, and where nothing does the slash ends it
      have hhead' : ((text.span Char.isDigit).2 ++ ['/']).head?.all
          (fun c => isSlash true c || endsPath c) = true := by
        cases hrest : (text.span Char.isDigit).2 with
        | nil => decide
        | cons d rest => rwa [hrest] at hhead
      dsimp only
      rw [if_pos hhead']
      split at h
      next hempty =>
        cases h
        rw [if_pos hempty]
      next hempty =>
        rw [if_neg hempty]
        split at h
        · cases h
          rfl
        · cases h
    · cases h
  next hne =>
    cases h
    cases text with
    | nil => rfl
    | cons c text =>
        rw [List.cons_append, parsePort.eq_def]
        split
        next heq => exact absurd (congrArg (List.cons · text) (List.cons.inj heq).1) (hne text)
        · rfl

end Authority

/-- A slash behind a text puts no colon in front of it. -/
theorem head?_concat_ne {text : List Char} (h : text.head? ≠ some ':') :
    (text ++ ['/']).head? ≠ some ':' := by
  cases text with
  | nil => decide
  | cons c text => exact h

/-! ### What is left of a text -/

/-- What follows the scheme is an end of the text. -/
theorem suffix_of_scheme? {text rest : List Char} {scheme : String}
    (h : scheme? text = some (scheme, rest)) : rest <:+ text := by
  rw [scheme?, List.span_eq_takeWhile_dropWhile] at h
  split at h
  next first name mark after heq =>
    split at h
    · cases h
      have hafter : mark :: rest <:+ text := by
        rw [← (Prod.mk.inj heq).2]
        exact List.dropWhile_suffix _
      exact (List.suffix_cons mark rest).trans hafter
    · cases h
  · cases h

/-- What follows the last at sign is an end of the text. -/
theorem suffix_of_splitAtSign? {text before after : List Char}
    (h : splitAtSign? text = some (before, after)) : after <:+ text := by
  rw [splitAtSign?, List.span_eq_takeWhile_dropWhile] at h
  split at h
  · cases h
  next mark rest heq =>
    cases h
    obtain ⟨htake, hdrop⟩ := Prod.mk.inj heq
    have hsplit := List.takeWhile_append_dropWhile (p := (· ≠ '@')) (l := text.reverse)
    refine ⟨(text.reverse.dropWhile (· ≠ '@')).reverse, ?_⟩
    rw [← htake, ← List.reverse_append, hsplit, List.reverse_reverse]

/-- What follows the user information is an end of the text, also where there is none. -/
theorem suffix_of_parseUserinfo {special : Bool} {text rest userinfo : List Char}
    (h : parseUserinfo special text = .ok (userinfo, rest)) : rest <:+ text := by
  rw [parseUserinfo, List.span_eq_takeWhile_dropWhile] at h
  dsimp only at h
  split at h
  · cases h
    exact List.suffix_refl _
  next before after hsome =>
    split at h
    · cases h
    · cases h
      have hsplit := List.takeWhile_append_dropWhile (p := fun c => !endsAuthority special c)
        (l := text)
      obtain ⟨front, hfront⟩ := suffix_of_splitAtSign? hsome
      exact ⟨front, by rw [← List.append_assoc, hfront, hsplit]⟩

/-- What follows the host is an end of the text. -/
theorem splitHost_suffix (special inBrackets : Bool) (text : List Char) :
    (splitHost special inBrackets text).2 <:+ text := by
  induction text generalizing inBrackets with
  | nil => exact List.suffix_refl _
  | cons c text ih =>
      rw [splitHost]
      split
      · exact List.suffix_refl _
      · exact (ih _).trans (List.suffix_cons c text)

/-- What follows the port is an end of the text, also where there is no port. -/
theorem suffix_of_parsePort {text rest : List Char} {port : Option Nat}
    (h : parsePort text = .ok (port, rest)) : rest <:+ text := by
  rw [parsePort.eq_def] at h
  split at h
  next text =>
    rw [List.span_eq_takeWhile_dropWhile] at h
    dsimp only at h
    have hrest : text.dropWhile Char.isDigit <:+ ':' :: text :=
      (List.dropWhile_suffix _).trans (List.suffix_cons _ _)
    split at h
    · split at h
      · cases h
        exact hrest
      · split at h
        · cases h
          exact hrest
        · cases h
    · cases h
  · cases h
    exact List.suffix_refl _

/-- What is left of a text ends as the text does. -/
theorem getLast?_of_suffix {text rest : List Char} (h : rest <:+ text) {c : Char}
    (hc : rest.getLast? = some c) : text.getLast? = some c := by
  obtain ⟨front, rfl⟩ := h
  rw [List.getLast?_append, hc]
  rfl

/-! ### Paths -/

/-- A text is written as one. -/
theorem encode_ne_nil {keep : Char → Bool} {text : List Char} (h : text ≠ []) :
    Percent.encode keep text ≠ [] := by
  obtain ⟨c, text, rfl⟩ := List.exists_cons_of_ne_nil h
  rw [Percent.encode_cons, Percent.encodeChar]
  split
  · exact List.cons_ne_nil _ _
  · obtain ⟨first, more, hbytes, -⟩ := Utf8.head_utf8EncodeChar c []
    rw [hbytes, List.flatMap_cons, Percent.encodeByte]
    exact List.cons_ne_nil _ _

/-- Whether a segment of a path that is read is a point or two. -/
abbrev IsPoints (segment : List Char) : Prop :=
  plainDots (Percent.encode Percent.keepInPath segment) = ['.', '.'] ∨
    plainDots (Percent.encode Percent.keepInPath segment) = ['.']

/-- A path, last segment first, behind one more segment that is not its last. -/
def follow (adjust : Bool → List Char → List Char) (path : List (List Char))
    (segment : List Char) : List (List Char) :=
  if IsPoints segment then
    if plainDots (Percent.encode Percent.keepInPath segment) = ['.'] then path
    else dropSegment path
  else adjust path.isEmpty (Percent.encode Percent.keepInPath segment) :: path

section Resolve

variable {adjust : Bool → List Char → List Char}

/-- A segment that is not the last one is followed, and the others are resolved from there. -/
theorem resolveSegments_cons (path : List (List Char)) (segment : List Char)
    {rest : List (List Char)} (h : rest ≠ []) :
    resolveSegments adjust path (segment :: rest) =
      resolveSegments adjust (follow adjust path segment) rest := by
  have hrest : ¬rest.isEmpty = true := fun hempty => h (List.isEmpty_iff.1 hempty)
  rw [resolveSegments, follow]
  dsimp only
  rw [if_neg hrest]
  by_cases hpoints : IsPoints segment
  · rw [if_pos hpoints, if_pos hpoints]
  · rw [if_neg hpoints, if_neg hpoints]

/-- The last segment is followed like any other, but one made of points leaves an empty segment
behind, the one after the slash that it stands for. -/
theorem resolveSegments_singleton (path : List (List Char)) (segment : List Char) :
    resolveSegments adjust path [segment] =
      if IsPoints segment then [] :: follow adjust path segment
      else follow adjust path segment := by
  rw [resolveSegments, follow]
  by_cases hpoints : IsPoints segment
  · rw [if_pos hpoints, if_pos hpoints, if_pos hpoints]
    rfl
  · rw [if_neg hpoints, if_neg hpoints, if_neg hpoints]
    rfl

/-- Points at the end of a path leave an empty segment, with or without a slash behind them. Any
other segment is followed by an empty one if there is a slash. -/
theorem resolveSegments_concat
    (hadjust : ∀ isFirst segment, adjust isFirst segment = [] ↔ segment = [])
    (segments path : List (List Char)) {last : List Char} (hlast : last ≠ []) :
    let without := resolveSegments adjust path (segments ++ [last])
    let slashed := resolveSegments adjust path (segments ++ [last] ++ [[]])
    (slashed = without ∧ without.head? = some []) ∨
      (slashed = [] :: without ∧ ∃ segment, segment ≠ [] ∧ without.head? = some segment) := by
  -- The segment behind the slash is empty, and resolving it adds an empty one to any path.
  have hempty : ∀ path, resolveSegments adjust path [[]] = [] :: path := by
    intro path
    rw [resolveSegments_singleton, if_neg (by decide), follow, if_neg (by decide)]
    exact congrArg (· :: path) ((hadjust _ _).2 rfl)
  intro without slashed
  induction segments generalizing path with
  | nil =>
      have hslashed : slashed = [] :: follow adjust path last := by
        dsimp only [slashed]
        rw [List.nil_append, List.singleton_append,
          resolveSegments_cons path last (List.cons_ne_nil _ _), hempty]
      have hwithout : without = if IsPoints last then [] :: follow adjust path last
          else follow adjust path last := resolveSegments_singleton path last
      -- points already leave an empty segment behind, which the slash does not double
      by_cases hpoints : IsPoints last
      · rw [if_pos hpoints] at hwithout
        exact .inl ⟨hslashed.trans hwithout.symm, by rw [hwithout]; rfl⟩
      · rw [if_neg hpoints] at hwithout
        refine .inr ⟨by rw [hslashed, hwithout], _, fun heq => ?_,
          by rw [hwithout, follow, if_neg hpoints]; rfl⟩
        exact encode_ne_nil hlast ((hadjust _ _).1 heq)
  | cons segment segments ih =>
      have hwithout : without =
          resolveSegments adjust (follow adjust path segment) (segments ++ [last]) :=
        resolveSegments_cons path segment (List.concat_ne_nil _ _)
      have hslashed : slashed =
          resolveSegments adjust (follow adjust path segment) (segments ++ [last] ++ [[]]) :=
        resolveSegments_cons path segment (List.concat_ne_nil _ _)
      rw [hwithout, hslashed]
      exact ih _

end Resolve

/-- **What a slash behind a text does to its path**: nothing if there is an empty segment at the
end, and else it adds one. -/
def TakesSlash (path slashed : List (List Char)) : Prop :=
  (slashed = path ∧ path.getLast? = some []) ∨
    (slashed = path ++ [[]] ∧ ∃ segment, segment ≠ [] ∧ path.getLast? = some segment)

/-- A path whose text ends in no slash takes one: its last segment is closed by it, unless it
resolves to an empty one. -/
theorem takesSlash_parsePath {special : Bool} {c : Char} (h : isSlash special c = false)
    (text : List Char) :
    TakesSlash (parsePath special (text ++ [c])) (parsePath special (text ++ [c] ++ ['/'])) := by
  have hsegments : ∃ pieces last, last ≠ [] ∧
      splitSegments special (text ++ [c]) = pieces ++ [last] := by
    rw [splitSegments, List.map_append]
    have hc : (if isSlash special c then '/' else c) ≠ '/' := by
      rw [h]
      rintro rfl
      cases h
    exact Pieces.exists_splitOn_concat hc _
  have hslashed : splitSegments special (text ++ [c] ++ ['/']) =
      splitSegments special (text ++ [c]) ++ [[]] := by
    rw [splitSegments, List.map_append]
    exact Pieces.splitOn_concat_self '/' _
  obtain ⟨pieces, last, hlast, hsplit⟩ := hsegments
  rw [parsePath, parsePath, hslashed, hsplit]
  rcases @resolveSegments_concat (fun _ segment => segment) (fun _ _ => Iff.rfl) pieces [] last
    hlast with ⟨hsame, hend⟩ | ⟨hmore, segment, hsegment, hend⟩
  · exact .inl ⟨congrArg List.reverse hsame, by rw [List.getLast?_reverse, hend]⟩
  · refine .inr ⟨?_, segment, hsegment, by rw [List.getLast?_reverse, hend]⟩
    rw [hmore, List.reverse_cons]

/-- The path behind an authority takes a slash as any path does. -/
theorem takesSlash_parsePathAfterAuthority {text : List Char}
    (h : ∀ c, text.getLast? = some c → isSlash true c = false) :
    TakesSlash (parsePathAfterAuthority true text)
      (parsePathAfterAuthority true (text ++ ['/'])) := by
  cases text with
  | nil => exact .inl ⟨rfl, rfl⟩
  | cons c rest =>
      -- One slash in front belongs to the authority; the path is what follows it.
      have hparse : ∀ more, parsePathAfterAuthority true (c :: rest ++ more) =
          parsePath true ((if isSlash true c then rest else c :: rest) ++ more) := by
        intro more
        rw [List.cons_append, parsePathAfterAuthority]
        split <;> rfl
      have hwithout := hparse []
      rw [List.append_nil, List.append_nil] at hwithout
      rw [hparse, hwithout]
      have hsuffix : (if isSlash true c then rest else c :: rest) <:+ c :: rest := by
        split
        · exact List.suffix_cons c rest
        · exact List.suffix_refl _
      rcases List.eq_nil_or_concat' (if isSlash true c then rest else c :: rest) with
        hnil | ⟨front, last, hconcat⟩
      · -- a slash alone would be one at the end
        split at hnil
        next hslash =>
          subst hnil
          exact absurd hslash (Bool.eq_false_iff.1 (h c rfl))
        · cases hnil
      · rw [hconcat] at hsuffix ⊢
        have hlast := h last (getLast?_of_suffix hsuffix (by simp))
        exact takesSlash_parsePath hlast front

namespace TakesSlash

/-- A client adds segments behind the same path, with or without the slash. -/
theorem popIfEmpty_eq {path slashed : List (List Char)} (h : TakesSlash path slashed) :
    popIfEmpty slashed = popIfEmpty path := by
  obtain ⟨rfl, -⟩ | ⟨rfl, segment, hsegment, hlast⟩ := h
  · rfl
  · obtain ⟨front, rfl⟩ := List.getLast?_eq_some_iff.1 hlast
    obtain ⟨c, segment, rfl⟩ := List.exists_cons_of_ne_nil hsegment
    rw [popIfEmpty, popIfEmpty, List.reverse_concat, List.reverse_concat]
    simp

/-- How a path that is given by its last segment takes a slash. -/
theorem eq_of_concat {front slashed : List (List Char)} {last : List Char}
    (h : TakesSlash (front ++ [last]) slashed) :
    slashed = if last = [] then front ++ [last] else front ++ [last] ++ [[]] := by
  rw [TakesSlash, List.getLast?_concat] at h
  obtain ⟨rfl, hlast⟩ | ⟨rfl, segment, hsegment, hlast⟩ := h
  · rw [if_pos (Option.some.inj hlast)]
  · rw [if_neg (Option.some.inj hlast ▸ hsegment)]

end TakesSlash

/-! ### The whole -/

/-- The query and the fragment are missing only if no text is left for them. -/
theorem eq_nil_of_withQueryAndFragment {url : Url} {text : List Char}
    (hquery : (url.withQueryAndFragment text).query = none)
    (hfragment : (url.withQueryAndFragment text).fragment = none) : text = [] := by
  rw [withQueryAndFragment, List.span_eq_takeWhile_dropWhile] at hquery hfragment
  dsimp only at hquery hfragment
  have hsplit := List.takeWhile_append_dropWhile (p := (· ≠ '#')) (l := text)
  cases htake : text.takeWhile (· ≠ '#') with
  | cons c query =>
      rw [htake] at hquery
      cases hquery
  | nil =>
      cases hdrop : text.dropWhile (· ≠ '#') with
      | cons c fragment =>
          rw [hdrop] at hfragment
          cases hfragment
      | nil =>
          rw [htake, hdrop] at hsplit
          exact hsplit.symm

/-- The parts of a URL of a special scheme, each read from what the one before it leaves. -/
theorem parseAfterSlashes_eq_ok_iff {scheme : String} (hspecial : isSpecial scheme = true)
    {text : List Char} {url : Url} :
    parseAfterSlashes scheme text = .ok url ↔
      ∃ userinfo rest host port after, parseUserinfo true text = .ok (userinfo, rest) ∧
        (splitHost true false rest).1 ≠ [] ∧
        Host.parse (splitHost true false rest).1 = .ok host ∧
        (host = [] → (splitHost true false rest).2.head? ≠ some ':') ∧
        parsePort (splitHost true false rest).2 = .ok (port, after) ∧
        (host = [] → userinfo = []) ∧
        ({ scheme
           userinfo
           host := some host
           port := port.filter fun port => defaultPort? scheme ≠ some port
           path := .segments (parsePathAfterAuthority true (after.span fun c => !endsPath c).1)
           query := none
           fragment := none } : Url).withQueryAndFragment (after.span fun c => !endsPath c).2 =
          url := by
  constructor
  · intro h
    -- the reading goes from part to part, and each check on the way has to pass
    rw [parseAfterSlashes, hspecial] at h
    obtain ⟨⟨userinfo, rest⟩, huserinfo, h⟩ := exists_of_bind_eq_ok h
    dsimp only at h
    split at h
    · cases h
    next hhostText =>
      obtain ⟨host, hhost, h⟩ := exists_of_bind_eq_ok h
      split at h
      · cases h
      next hcolon =>
        obtain ⟨⟨port, after⟩, hport, h⟩ := exists_of_bind_eq_ok h
        dsimp only at h
        split at h
        · cases h
        next hname =>
          refine ⟨userinfo, rest, host, port, after, huserinfo, ?_, hhost, ?_, hport, ?_,
            Except.ok.inj h⟩
          · exact fun hempty => hhostText ⟨rfl, List.isEmpty_iff.2 hempty⟩
          · exact fun hempty hhead => hcolon ⟨List.isEmpty_iff.2 hempty, hhead⟩
          · intro hempty
            by_contra hne
            refine hname ⟨List.isEmpty_iff.2 hempty, ?_⟩
            rwa [Bool.not_eq_true', List.isEmpty_eq_false_iff]
  · rintro ⟨userinfo, rest, host, port, after, huserinfo, hhostText, hhost, hcolon, hport, hname,
      rfl⟩
    rw [parseAfterSlashes, hspecial, huserinfo]
    dsimp only [bind, Except.bind]
    rw [if_neg fun hempty => hhostText (List.isEmpty_iff.1 hempty.2), if_pos rfl, hhost]
    dsimp only
    rw [if_neg fun hempty => hcolon (List.isEmpty_iff.1 hempty.1) hempty.2, hport]
    dsimp only
    rw [if_neg]
    · rfl
    · rintro ⟨hempty, hne⟩
      rw [hname (List.isEmpty_iff.1 hempty)] at hne
      cases hne

/-- **What a slash does to what follows the slashes in front of an authority.** -/
theorem exists_parseAfterSlashes_concat {scheme : String} {text : List Char} {url : Url}
    (hspecial : isSpecial scheme = true) (h : parseAfterSlashes scheme text = .ok url)
    (hquery : url.query = none) (hfragment : url.fragment = none)
    (hlast : ∀ c, text.getLast? = some c → isSlash true c = false) :
    ∃ path slashed, url.path = .segments path ∧ TakesSlash path slashed ∧
      parseAfterSlashes scheme (text ++ ['/']) = .ok { url with path := .segments slashed } := by
  obtain ⟨userinfo, rest, host, port, after, huserinfo, hhostText, hhost, hcolon, hport, hname,
    rfl⟩ := (parseAfterSlashes_eq_ok_iff hspecial).1 h
  -- there is no tail, so that the path goes to the end of the text
  have htail := eq_nil_of_withQueryAndFragment hquery hfragment
  rw [List.span_eq_takeWhile_dropWhile] at htail
  have hpath : ∀ c ∈ after, (!endsPath c) = true := List.dropWhile_eq_nil_iff.1 htail
  have hslashed : ∀ c ∈ after ++ ['/'], (!endsPath c) = true :=
    List.forall_mem_append.2 ⟨hpath, List.forall_mem_singleton.2 (by decide)⟩
  have hafter : after <:+ text :=
    (suffix_of_parsePort hport).trans
      ((splitHost_suffix _ _ _).trans (suffix_of_parseUserinfo huserinfo))
  have hrest : rest ≠ [] := by
    rintro rfl
    exact hhostText rfl
  rw [span_eq_of_forall hpath]
  refine ⟨_, _, rfl, takesSlash_parsePathAfterAuthority fun c hc =>
    hlast c (getLast?_of_suffix hafter hc), (parseAfterSlashes_eq_ok_iff hspecial).2 ?_⟩
  refine ⟨userinfo, rest ++ ['/'], host, port, after ++ ['/'],
    parseUserinfo_concat huserinfo hrest, ?_⟩
  rw [splitHost_concat, span_eq_of_forall hslashed]
  exact ⟨hhostText, hhost, fun hempty => head?_concat_ne (hcolon hempty), parsePort_concat hport,
    hname, rfl⟩

/-- A special scheme needs more than slashes behind it. -/
theorem parseAfterSlashes_nil {scheme : String} (h : isSpecial scheme = true) :
    parseAfterSlashes scheme [] = .error .emptyHost := by
  rw [parseAfterSlashes, h]
  rfl

/-- What is read after the slashes gives the URL a host, and leaves the scheme to what was read
before. -/
theorem scheme_of_parseAfterSlashes {scheme : String} {text : List Char} {url : Url}
    (h : parseAfterSlashes scheme text = .ok url) :
    url.scheme = scheme ∧ ∃ host, url.host = some host := by
  rw [parseAfterSlashes] at h
  obtain ⟨_, -, h⟩ := exists_of_bind_eq_ok h
  obtain ⟨host, -, h⟩ := exists_of_ite_bind_eq_ok (eq_ok_of_guard h)
  obtain ⟨_, -, h⟩ := exists_of_bind_eq_ok (eq_ok_of_guard h)
  have hurl := eq_ok_of_guard h
  cases hurl
  exact ⟨rfl, host, rfl⟩

/-- A URL that is read has the scheme in front of its text. -/
theorem scheme?_of_parse {text : String} {url : Url} (h : parse text = .ok url) :
    ∃ rest, scheme? (clean text.toList) = some (url.scheme, rest) := by
  rw [parse] at h
  split at h
  · cases h
  next scheme rest hscheme =>
    refine ⟨rest, ?_⟩
    suffices heq : url.scheme = scheme by rw [heq, hscheme]
    split at h
    next hfile =>
      rw [parseFile] at h
      obtain ⟨_, -, h⟩ := exists_of_bind_eq_ok h
      cases h
      exact hfile.symm
    split at h
    · exact (scheme_of_parseAfterSlashes h).1
    · rw [parseOther.eq_def] at h
      split at h
      · exact (scheme_of_parseAfterSlashes h).1
      · cases h
        rfl

/-- Whether requests are made for URLs of the scheme of a URL. -/
def IsWeb (url : Url) : Prop :=
  url.scheme = "http" ∨ url.scheme = "https"

/-- A web URL names no file. -/
theorem IsWeb.scheme_ne_file {url : Url} (hweb : url.IsWeb) : url.scheme ≠ "file" := by
  rcases hweb with hscheme | hscheme <;> rw [hscheme] <;> decide

/-- The two schemes of the web are special. -/
theorem IsWeb.isSpecial_scheme {url : Url} (hweb : url.IsWeb) : isSpecial url.scheme = true := by
  rcases hweb with hscheme | hscheme <;> rw [hscheme] <;> decide

/-- A text that a web URL is read from is read, once its scheme is, from behind any number of
slashes. -/
theorem IsWeb.parse_eq {text : String} {url : Url} (hweb : url.IsWeb) {rest : List Char}
    (h : scheme? (clean text.toList) = some (url.scheme, rest)) :
    parse text = parseAfterSlashes url.scheme (rest.dropWhile (isSlash true)) := by
  rw [parse, h]
  dsimp only
  rw [if_neg hweb.scheme_ne_file, if_pos hweb.isSpecial_scheme]

/-- A URL that requests are made for has a host. -/
theorem IsWeb.exists_host {text : String} {url : Url} (hweb : url.IsWeb)
    (h : parse text = .ok url) : ∃ host, url.host = some host := by
  obtain ⟨rest, hscheme⟩ := scheme?_of_parse h
  rw [hweb.parse_eq hscheme] at h
  exact (scheme_of_parseAfterSlashes h).2

/-- Whether a text ends in a character that is read as such: no slash of either kind, and no blank
and no control, which are dropped there. Tabs and line ends, which are dropped everywhere, do not
count. -/
def endsPlainly (text : List Char) : Bool :=
  (text.filter fun c => !isDropped c).getLast?.any fun c =>
    !isSlash true c && decide (0x20 < c.toNat)

/-- The end of such a text. -/
theorem exists_of_endsPlainly {text : List Char} (h : endsPlainly text = true) :
    ∃ front c dropped, text = front ++ [c] ++ dropped ∧ (∀ d ∈ dropped, isDropped d = true) ∧
      isSlash true c = false ∧ 0x20 < c.toNat := by
  obtain ⟨c, hlast, hc⟩ := (Option.any_eq_true _ _).1 h
  obtain ⟨kept, hkept⟩ := List.getLast?_eq_some_iff.1 hlast
  obtain ⟨before, after, rfl, -, hafter⟩ := List.filter_eq_append_iff.1 hkept
  obtain ⟨between, dropped, rfl, -, -, hdropped⟩ := List.filter_eq_cons_iff.1 hafter
  rw [Bool.and_eq_true, Bool.not_eq_true', decide_eq_true_eq] at hc
  refine ⟨before ++ between, c, dropped, by simp, fun d hd => ?_, hc⟩
  simpa using List.filter_eq_nil_iff.1 hdropped d hd

/-- A slash behind the text of a URL leaves its scheme, and is behind what follows it. -/
theorem exists_scheme?_concat {text : String} {url : Url} (h : parse text = .ok url)
    (hends : endsPlainly text.toList = true) :
    ∃ rest, scheme? (clean text.toList) = some (url.scheme, rest) ∧
      scheme? (clean (text ++ "/").toList) = some (url.scheme, rest ++ ['/']) ∧
      ∀ c, rest.getLast? = some c → isSlash true c = false := by
  obtain ⟨rest, hscheme⟩ := scheme?_of_parse h
  obtain ⟨front, c, dropped, htext, hdropped, hc, hblank⟩ := exists_of_endsPlainly hends
  obtain ⟨cleaned, hclean, hcleanSlashed⟩ := exists_clean_concat_eq hblank front hdropped
  have hslashed : (text ++ "/").toList = front ++ [c] ++ dropped ++ ['/'] := by
    rw [String.toList_append, htext]
    rfl
  rw [htext, hclean] at hscheme
  rw [hslashed, htext, hclean, hcleanSlashed]
  refine ⟨rest, hscheme, scheme?_concat hscheme '/', fun d hd => ?_⟩
  have hlast := getLast?_of_suffix (suffix_of_scheme? hscheme) hd
  rw [List.getLast?_concat] at hlast
  rwa [← Option.some.inj hlast]

/-- **What a slash behind the text of a URL does**: its path takes it. -/
theorem exists_parse_concat {text : String} {url : Url} (h : parse text = .ok url)
    (hweb : url.IsWeb) (hquery : url.query = none) (hfragment : url.fragment = none)
    (hends : endsPlainly text.toList = true) :
    ∃ path slashed, url.path = .segments path ∧ TakesSlash path slashed ∧
      parse (text ++ "/") = .ok { url with path := .segments slashed } := by
  obtain ⟨rest, hscheme, hconcat, hlast⟩ := exists_scheme?_concat h hends
  rw [hweb.parse_eq hscheme] at h
  have hbody : rest.dropWhile (isSlash true) ≠ [] := by
    intro hnil
    rw [hnil, parseAfterSlashes_nil hweb.isSpecial_scheme] at h
    cases h
  have hdrop : (rest ++ ['/']).dropWhile (isSlash true) =
      rest.dropWhile (isSlash true) ++ ['/'] := by
    rw [List.dropWhile_append, if_neg (fun hempty => hbody (List.isEmpty_iff.1 hempty))]
  rw [hweb.parse_eq hconcat, hdrop]
  exact exists_parseAfterSlashes_concat hweb.isSpecial_scheme h hquery hfragment fun c hc =>
    hlast c (getLast?_of_suffix (List.dropWhile_suffix _) hc)

end Url

end Reconcile
