import ClusterPorts.Http.Url

/-!
# Addresses of plain texts

A plain text stands for itself as a segment of a path: there is nothing in it that
would be escaped, end the path or lead elsewhere. A path of plain segments is read
as it is written, behind the text of any server.
-/

namespace ClusterPorts.Http.Url

/-- A character that stands for itself in a segment of a path. -/
def isSegmentChar (c : Char) : Bool :=
  !isPathUnsafe c && c ≠ '/' && c ≠ '\\' && c ≠ '%'

/-- A text that stands for itself as a segment of a path. -/
structure IsPlain (s : String) : Prop where
  all : s.toList.all isSegmentChar = true
  not_here : s ≠ "."
  not_above : s ≠ ".."

instance : DecidablePred IsPlain := fun s =>
  decidable_of_iff (s.toList.all isSegmentChar = true ∧ s ≠ "." ∧ s ≠ "..")
    ⟨fun ⟨all, here, above⟩ => ⟨all, here, above⟩, fun ⟨all, here, above⟩ => ⟨all, here, above⟩⟩

theorem IsPlain.chars {s : String} (plain : IsPlain s) :
    ∀ c ∈ s.toList, isPathUnsafe c = false ∧ c ≠ '/' ∧ c ≠ '\\' ∧ c ≠ '%' := fun c member => by
  simpa [isSegmentChar, and_assoc] using List.all_eq_true.mp plain.all c member

/-- Segments with the slash before each of them. -/
def joined (segments : List String) : List Char := segments.flatMap fun s => '/' :: s.toList

theorem joined_cons (s : String) (rest : List String) :
    joined (s :: rest) = '/' :: (s.toList ++ joined rest) := rfl

/-! ## Characters -/

/-- A character that is safe in a path is seen, and is no blank. -/
theorem lt_toNat_of_safe {c : Char} (safe : isPathUnsafe c = false) : 0x20 < c.toNat := by
  have parts : ¬ c.toNat < 0x20 ∧ c ≠ ' ' := by
    simp [isPathUnsafe, isFragmentUnsafe, isControl] at safe
    refine ⟨by omega, by grind⟩
  have other : c.toNat ≠ 0x20 := fun same => parts.2 (Char.ext (UInt32.toNat_inj.mp same))
  omega

theorem ne_of_safe {c : Char} (safe : isPathUnsafe c = false) : c ≠ '?' ∧ c ≠ '#' := by
  constructor <;> rintro rfl <;> revert safe <;> decide

/-- Only letters have capitals. -/
theorem eq_of_toLower {c d : Char} (same : c.toLower = d) (other : d.toNat < 97 ∨ 122 < d.toNat) :
    c = d := by
  unfold Char.toLower at same
  split at same
  · next capital =>
    have least : 65 ≤ c.val.toNat := UInt32.le_iff_toNat_le.mp capital.1
    have greatest : c.val.toNat ≤ 90 := UInt32.le_iff_toNat_le.mp capital.2
    have value : d.toNat = c.val.toNat + 32 := by
      rw [← same]
      show (c.val + 32).toNat = _
      rw [UInt32.toNat_add]
      show (c.val.toNat + 32) % 4294967296 = _
      omega
    omega
  · exact same

/-! ## Segments -/

variable {s : String} {segments : List String}

theorem mem_of_mem_lower {c : Char} (member : c ∈ (Text.lower s).toList)
    (other : c.toNat < 97 ∨ 122 < c.toNat) : c ∈ s.toList := by
  rw [Text.lower, String.toList_ofList] at member
  obtain ⟨d, member, same⟩ := List.mem_map.mp member
  exact eq_of_toLower same other ▸ member

theorem eq_of_lower {word : String} (same : Text.lower s = word)
    (other : ∀ c ∈ word.toList, c.toNat < 97 ∨ 122 < c.toNat) : s = word := by
  have chars : s.toList.map Char.toLower = word.toList := by
    rw [← same, Text.lower, String.toList_ofList]
  have eq_of_map {cs ds : List Char} (same : cs.map Char.toLower = ds)
      (other : ∀ c ∈ ds, c.toNat < 97 ∨ 122 < c.toNat) : cs = ds := by
    subst same
    induction cs with
    | nil => rfl
    | cons c cs ih =>
        obtain ⟨first, others⟩ := List.forall_mem_cons.mp other
        rw [List.map_cons, ← ih others, ← eq_of_toLower rfl first]
  exact String.toList_inj.mp (eq_of_map chars other)

/-- A plain segment leads nowhere else. -/
theorem IsPlain.not_isHere (plain : IsPlain s) : isHere s.toList = false := by
  have lowered (same : Text.lower s = "%2e") : False :=
    (plain.chars '%' (mem_of_mem_lower (by simp [same]) (by decide))).2.2.2 rfl
  have here (same : Text.lower s = ".") : False :=
    plain.not_here (eq_of_lower same (by simp))
  simpa [isHere] using ⟨here, lowered⟩

theorem IsPlain.not_isAbove (plain : IsPlain s) : isAbove s.toList = false := by
  have lowered {word : String} (percent : '%' ∈ word.toList) (same : Text.lower s = word) : False :=
    (plain.chars '%' (mem_of_mem_lower (same ▸ percent) (by decide))).2.2.2 rfl
  have above (same : Text.lower s = "..") : False :=
    plain.not_above (eq_of_lower same (by simp))
  simpa [isAbove] using
    ⟨above, lowered (by decide), lowered (by decide), lowered (by decide)⟩

/-- Plain segments are followed one by one. -/
theorem follow_append (plain : ∀ s ∈ segments, IsPlain s) (above : List (List Char))
    (next : List Char) (rest : List (List Char)) :
    follow above (segments.map String.toList ++ next :: rest) =
      follow ((segments.map String.toList).reverse ++ above) (next :: rest) := by
  induction segments generalizing above with
  | nil => rfl
  | cons s others ih =>
      obtain ⟨own, plain⟩ := List.forall_mem_cons.mp plain
      rw [List.map_cons, List.cons_append, follow, own.not_isAbove, own.not_isHere,
        if_neg Bool.false_ne_true, if_neg Bool.false_ne_true, ih plain]
      · simp
      · simp

theorem follow_plain (plain : ∀ s ∈ segments, IsPlain s) :
    follow [] (segments.map String.toList) = segments.map String.toList := by
  rcases List.eq_nil_or_concat segments with rfl | ⟨others, s, rfl⟩
  · rfl
  · rw [List.concat_eq_append] at plain ⊢
    obtain ⟨plain, own⟩ := List.forall_mem_append.mp plain
    have own := List.forall_mem_singleton.mp own
    rw [List.map_append, List.map_singleton, follow_append plain]
    simp [follow, own.not_isAbove, own.not_isHere]

/-- There are no slashes in a text, of neither kind. -/
def IsBare (s : String) : Prop := '/' ∉ s.toList ∧ '\\' ∉ s.toList

theorem IsPlain.isBare (plain : IsPlain s) : IsBare s :=
  ⟨fun member => (plain.chars _ member).2.1 rfl, fun member => (plain.chars _ member).2.2.1 rfl⟩

/-- The pieces between the slashes are the segments. -/
theorem pieces_joined (bare : ∀ s ∈ segments, IsBare s) {s : String} (own : IsBare s) :
    Text.pieces '/' (s.toList ++ joined segments) = (s :: segments).map String.toList := by
  induction segments generalizing s with
  | nil => simp [joined, Text.pieces_of_notMem own.1]
  | cons next rest ih =>
      obtain ⟨first, others⟩ := List.forall_mem_cons.mp bare
      rw [joined, List.flatMap_cons, List.cons_append, Text.pieces_append_cons own.1]
      exact congrArg (s.toList :: ·) (ih others first)

theorem escape_of_safe {isUnsafe : Char → Bool} {cs : List Char}
    (safe : ∀ c ∈ cs, isUnsafe c = false) : escape isUnsafe cs = cs := by
  induction cs with
  | nil => rfl
  | cons c rest ih =>
      obtain ⟨first, others⟩ := List.forall_mem_cons.mp safe
      have rest_eq := ih others
      rw [escape] at rest_eq ⊢
      rw [List.flatMap_cons, rest_eq, first]
      rfl

theorem escape_joined (plain : ∀ s ∈ segments, IsPlain s) :
    (segments.map String.toList).flatMap (fun s => '/' :: escape isPathUnsafe s) =
      joined segments := by
  rw [List.flatMap_map, joined, List.flatMap_def, List.flatMap_def]
  refine congrArg List.flatten (List.map_congr_left fun s mem => ?_)
  exact congrArg ('/' :: ·) (escape_of_safe fun c member => ((plain s mem).chars c member).1)

/-- The path of segments that are read one by one. -/
theorem pathOf_eq (bare : ∀ s ∈ segments, IsBare s) (nonempty : segments ≠ []) :
    pathOf true (joined segments) = String.ofList
      ((follow [] (segments.map String.toList)).flatMap fun s => '/' :: escape isPathUnsafe s) := by
  have slashes :
      (joined segments).map (fun c => if c = '\\' then '/' else c) = joined segments := by
    refine (List.map_congr_left fun c member => ?_).trans (List.map_id _)
    obtain ⟨s, mem, member⟩ := List.mem_flatMap.mp member
    refine if_neg ?_
    rintro rfl
    exact (bare s mem).2 ((List.mem_cons.mp member).resolve_left (by decide))
  obtain ⟨s, rest, rfl⟩ := List.exists_cons_of_ne_nil nonempty
  obtain ⟨own, others⟩ := List.forall_mem_cons.mp bare
  unfold pathOf
  rw [if_pos rfl, slashes, joined_cons]
  simp only
  rw [pieces_joined others own]

/-- A path of plain segments stands as it is written. -/
theorem pathOf_joined (plain : ∀ s ∈ segments, IsPlain s) (nonempty : segments ≠ []) :
    pathOf true (joined segments) = String.ofList (joined segments) := by
  rw [pathOf_eq (fun s mem => (plain s mem).isBare) nonempty, follow_plain plain,
    escape_joined plain]

/-- Paths of plain segments differ where the segments do. -/
theorem joined_injective {others : List String} (plain : ∀ s ∈ segments, IsPlain s)
    (plain' : ∀ s ∈ others, IsPlain s) (same : joined segments = joined others) :
    segments = others := by
  cases segments with
  | nil =>
      cases others with
      | nil => rfl
      | cons s rest => cases same
  | cons s rest =>
      cases others with
      | nil => cases same
      | cons s' rest' =>
          obtain ⟨own, plain⟩ := List.forall_mem_cons.mp plain
          obtain ⟨own', plain'⟩ := List.forall_mem_cons.mp plain'
          rw [joined_cons, joined_cons] at same
          have pieces := congrArg (Text.pieces '/') (List.cons.inj same).2
          rw [pieces_joined (fun s mem => (plain s mem).isBare) own.isBare,
            pieces_joined (fun s mem => (plain' s mem).isBare) own'.isBare] at pieces
          exact (List.map_inj_right fun _ _ => String.toList_inj.mp).mp pieces

/-! ## Addresses -/

/-- A character that may stand between the slashes before a host and the path. -/
def isAuthorityChar (c : Char) : Bool := 0x20 < c.toNat && c ∉ ['/', '\\', '?', '#']

/-- The text of a server: a scheme of the web and a host, perhaps with a port. -/
inductive IsServer (text : String) : Prop
  | intro {scheme authority host : String} {standard : Nat} {port : Option Nat}
      (web : (scheme, standard) ∈ [("http", 80), ("https", 443)])
      (text_eq : text = scheme ++ "://" ++ authority)
      (all : authority.toList.all isAuthorityChar = true)
      (named : webHost? (hostPart false authority.toList) = some host)
      (ported : port? (some standard)
        (authority.toList.drop (hostPart false authority.toList).length) = some port)

theorem cleaned_eq {text : String} (seen : ∀ c ∈ text.toList, 0x20 < c.toNat) :
    cleaned text = text.toList := by
  have kept {cs : List Char} (seen : ∀ c ∈ cs, 0x20 < c.toNat) :
      cs.dropWhile (fun c => c.toNat ≤ 0x20) = cs := by
    cases cs with
    | nil => rfl
    | cons c rest => exact List.dropWhile_cons_of_neg (by simpa using seen c List.mem_cons_self)
  have seen' : ∀ c ∈ text.toList.reverse, 0x20 < c.toNat := fun c member =>
    seen c (List.mem_reverse.mp member)
  unfold cleaned
  simp only [kept seen, kept seen', List.reverse_reverse]
  refine List.filter_eq_self.mpr fun c member => ?_
  have blank : ¬ 0x20 < '\t'.toNat ∧ ¬ 0x20 < '\n'.toNat ∧ ¬ 0x20 < '\r'.toNat := by decide
  have ne_of {d : Char} (other : ¬ 0x20 < d.toNat) : c ≠ d := fun same =>
    other (same ▸ seen c member)
  simp [ne_of blank.1, ne_of blank.2.1, ne_of blank.2.2]

/-- A text up to the first of a few characters. -/
theorem splitAt_append_cons {ends before after : List Char} {c : Char}
    (others : ∀ d ∈ before, d ∉ ends) (first : c ∈ ends) :
    splitAt ends (before ++ c :: after) = (before, c :: after) := by
  have goes : ∀ d ∈ before, (!ends.contains d) = true := fun d member => by
    simpa using others d member
  have stops : (!ends.contains c) = false := by simpa using first
  rw [splitAt, List.takeWhile_append_of_pos goes, List.dropWhile_append_of_pos goes,
    List.takeWhile_cons_of_neg (stops ▸ Bool.false_ne_true),
    List.dropWhile_cons_of_neg (stops ▸ Bool.false_ne_true), List.append_nil]

/-- Before the colon is the scheme. -/
theorem scheme?_append_cons {scheme : String} {c : Char} {more : List Char}
    (word : scheme.toList = c :: more) (letter : c.isAlpha)
    (chars : ∀ c ∈ scheme.toList, isSchemeChar c) (low : Text.lower scheme = scheme)
    (rest : List Char) : scheme? (scheme.toList ++ ':' :: rest) = some (scheme, rest) := by
  have colon : isSchemeChar ':' ≠ true := by decide
  unfold scheme?
  rw [List.takeWhile_append_of_pos chars, List.dropWhile_append_of_pos chars,
    List.takeWhile_cons_of_neg colon, List.dropWhile_cons_of_neg colon, List.append_nil, word]
  simp only [if_pos letter]
  rw [← word, String.ofList_toList, low]

theorem scheme?_web {scheme : String} {standard : Nat}
    (web : (scheme, standard) ∈ [("http", 80), ("https", 443)]) :
    defaultPort? scheme = some (some standard) ∧
      ∀ rest, scheme? (scheme.toList ++ ':' :: rest) = some (scheme, rest) := by
  simp only [List.mem_cons, Prod.mk.injEq, List.not_mem_nil, or_false] at web
  rcases web with ⟨rfl, rfl⟩ | ⟨rfl, rfl⟩
  · have word : "http".toList = 'h' :: ['t', 't', 'p'] := by simp
    exact ⟨by simp [defaultPort?],
      scheme?_append_cons word (by decide) (by simp [isSchemeChar]) (by simp [Text.lower])⟩
  · have word : "https".toList = 'h' :: ['t', 't', 'p', 's'] := by simp
    exact ⟨by simp [defaultPort?],
      scheme?_append_cons word (by decide) (by simp [isSchemeChar]) (by simp [Text.lower])⟩

theorem seen_of_web {scheme : String} {standard : Nat}
    (web : (scheme, standard) ∈ [("http", 80), ("https", 443)]) :
    ∀ c ∈ scheme.toList, 0x20 < c.toNat := by
  simp only [List.mem_cons, Prod.mk.injEq, List.not_mem_nil, or_false] at web
  rcases web with ⟨rfl, rfl⟩ | ⟨rfl, rfl⟩ <;> simp

/-- Behind the text of a server are a path, up to the first mark that ends one, and
what follows it. -/
theorem parse?_server {endpoint : String} (server : IsServer endpoint) :
    ∃ scheme host port, (scheme = "http" ∨ scheme = "https") ∧
      ∀ {text : String} {path rest : List Char} {mark : Char},
        text.toList = endpoint.toList ++ ('/' :: path ++ mark :: rest) →
        (∀ c ∈ path, 0x20 < c.toNat ∧ c ∉ ['?', '#']) → mark ∈ ['?', '#'] →
        (∀ c ∈ rest, 0x20 < c.toNat) →
        parse? text = some ⟨scheme, some host, port, pathOf true ('/' :: path),
          (afterPath true (mark :: rest)).1, (afterPath true (mark :: rest)).2⟩ := by
  obtain @⟨scheme, authority, host, standard, port, web, rfl, all, named, ported⟩ := server
  have chars : ∀ c ∈ authority.toList, 0x20 < c.toNat ∧ c ∉ ['/', '\\', '?', '#'] :=
    fun c member => by simpa [isAuthorityChar] using List.all_eq_true.mp all c member
  have ends : ∀ c ∈ authority.toList, c ∉ ['/', '\\', '?', '#'] := fun c member =>
    (chars c member).2
  refine ⟨scheme, host, port, ?_, fun {text path rest mark} text_eq seen marks seen' => ?_⟩
  · simp only [List.mem_cons, Prod.mk.injEq, List.not_mem_nil, or_false] at web
    exact web.imp And.left And.left
  have text_eq : text.toList =
      scheme.toList ++ ':' :: ('/' :: '/' :: (authority.toList ++ ('/' :: path ++ mark :: rest))) := by
    rw [text_eq]
    simp
  have visible : ∀ c ∈ text.toList, 0x20 < c.toNat := by
    have marked : 0x20 < mark.toNat := by
      simp only [List.mem_cons, List.not_mem_nil, or_false] at marks
      rcases marks with rfl | rfl <;> decide
    rw [text_eq]
    simp only [List.forall_mem_append, List.forall_mem_cons]
    exact ⟨seen_of_web web, by decide, by decide, by decide, fun c member => (chars c member).1,
      ⟨by decide, fun c member => (seen c member).1⟩, marked, seen'⟩
  have behind : ('/' :: '/' :: (authority.toList ++ ('/' :: path ++ mark :: rest))).dropWhile
      (fun c => c = '/' || c = '\\') = authority.toList ++ ('/' :: path ++ mark :: rest) := by
    rw [List.dropWhile_cons_of_pos (by decide), List.dropWhile_cons_of_pos (by decide)]
    cases own : authority.toList with
    | nil => simp [own, hostPart, webHost?, unescape] at named
    | cons c more =>
        have other := ends c (own ▸ List.mem_cons_self)
        exact List.dropWhile_cons_of_neg (by simp at other; simp [other])
  have split : splitAt ['/', '\\', '?', '#'] (authority.toList ++ ('/' :: path ++ mark :: rest)) =
      (authority.toList, '/' :: path ++ mark :: rest) :=
    splitAt_append_cons ends List.mem_cons_self
  have path_eq : splitAt ['?', '#'] ('/' :: path ++ mark :: rest) =
      ('/' :: path, mark :: rest) :=
    splitAt_append_cons (List.forall_mem_cons.mpr ⟨by decide, fun c member => (seen c member).2⟩)
      marks
  unfold parse?
  rw [cleaned_eq visible, text_eq, (scheme?_web web).2]
  simp only [Option.bind_eq_bind, Option.bind_some, (scheme?_web web).1, behind, split, named,
    ported, withHost, path_eq]
  rfl

theorem seen_joined (plain : ∀ s ∈ segments, IsPlain s) :
    ∀ c ∈ joined segments, 0x20 < c.toNat ∧ c ∉ ['?', '#'] := by
  intro c member
  obtain ⟨s, mem, member⟩ := List.mem_flatMap.mp member
  rcases List.mem_cons.mp member with rfl | member
  · decide
  · have safe := ((plain s mem).chars c member).1
    exact ⟨lt_toNat_of_safe safe, by simpa using ne_of_safe safe⟩

/-- What comes behind the text of a server, a path of plain segments and a query, is
read as it is written. -/
theorem parse?_joined {endpoint : String} (server : IsServer endpoint) :
    ∃ scheme host port, (scheme = "http" ∨ scheme = "https") ∧
      ∀ {segments : List String}, segments ≠ [] → (∀ s ∈ segments, IsPlain s) →
        parse? (endpoint ++ String.ofList (joined segments) ++ "?api-version=2021-03-01") =
          some ⟨scheme, some host, port, String.ofList (joined segments),
            some "api-version=2021-03-01", none⟩ := by
  obtain ⟨scheme, host, port, web, parses⟩ := parse?_server server
  refine ⟨scheme, host, port, web, fun {segments} nonempty plain => ?_⟩
  have after : afterPath true ('?' :: "api-version=2021-03-01".toList) =
      (some "api-version=2021-03-01", none) := by
    have safe : ∀ c ∈ "api-version=2021-03-01".toList, isQueryUnsafe true c = false := by
      simp [isQueryUnsafe, isControl]
    have split : splitAt ['#'] ('?' :: "api-version=2021-03-01".toList) =
        ('?' :: "api-version=2021-03-01".toList, []) := by simp [splitAt]
    rw [afterPath, split]
    simp only [escape_of_safe safe, String.ofList_toList]
  have path_eq := pathOf_joined plain nonempty
  have seen := seen_joined plain
  obtain ⟨s, rest, rfl⟩ := List.exists_cons_of_ne_nil nonempty
  rw [joined_cons] at path_eq seen ⊢
  have text_eq : (endpoint ++ String.ofList ('/' :: (s.toList ++ joined rest)) ++
      "?api-version=2021-03-01").toList = endpoint.toList ++
        ('/' :: (s.toList ++ joined rest) ++ '?' :: "api-version=2021-03-01".toList) := by
    simp
  rw [parses text_eq (List.forall_mem_cons.mp seen).2 List.mem_cons_self (by simp), path_eq, after]

end ClusterPorts.Http.Url
