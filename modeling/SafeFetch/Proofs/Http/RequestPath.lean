import SafeFetch.Proofs.Http.Headers
import SafeFetch.Proofs.Path
import SafeFetch.Proofs.Percent.Rewriting
import SafeFetch.Proofs.Text

/-!
# Paths of requests

A URL is read in two ways: strictly for a request, where every part is brought into a normal form,
and leniently where only the path is wanted. Both tell the parts apart by the same delimiters, so
they find the same path, and the normal form of a path without dot segments is the path with some
more escapes. These do not change the text that the path stands for, so what is known from a URL
about the path of a file is what the response to a request for it tells.

## Main definitions

* `IsPlainHost`: a host in ASCII without delimiters;
* `IsPlainPath`: a path from the root without dot segments;
* `addressBelow`: the URL of a host and a path, with a query and a fragment if they are given.

## Main results

* `Url.cutOptional_append_behindPath`: a query and a fragment are cut off;
* `Url.parse_addressBelow` and `UrlParts.parse_addressBelow`: the parts that the two readings find;
* `Url.requestPath_of_parse`: the path that is asked for;
* `FileInfo.urlPath_eq_of_parse`: the two ways to know the path of a file agree.
-/

namespace SafeFetch

open SafeFetch.Text

namespace Http

variable {host path : List Char} {query fragment : Option (List Char)}

/-! ## Addresses -/

/-- A host that is written in ASCII without delimiters. -/
structure IsPlainHost (host : List Char) : Prop where
  nonempty : host ≠ []
  ascii : ∀ c ∈ host, isAscii c = true
  free : ∀ sep ∈ "/?#@:[]".toList, sep ∉ host

/-- A path from the root, without dot segments. -/
structure IsPlainPath (path : List Char) : Prop where
  rooted : path.head? = some '/'
  noQuery : '?' ∉ path
  noFragment : '#' ∉ path
  noDots : ∀ segment ∈ splitAll '/' path, segment ≠ ['.'] ∧ segment ≠ ['.', '.']

/-- What stands behind a path: a query and a fragment, if they are given. -/
def behindPath (query fragment : Option (List Char)) : List Char :=
  query.elim [] ('?' :: ·) ++ fragment.elim [] ('#' :: ·)

/-- The characters of an address below a host. -/
def addressBelow (host path : List Char) (query fragment : Option (List Char)) : List Char :=
  "http".toList ++ ':' :: '/' :: '/' :: (host ++ (path ++ behindPath query fragment))

namespace Url

/-! ## The strict reading -/

/-- Behind a text without delimiters, the rest is cut as it is by itself. -/
theorem fst_cutOptional_append {sep : Char} {front : List Char} (free : sep ∉ front)
    (rest : List Char) : (cutOptional sep (front ++ rest)).1 = front ++ (cutOptional sep rest).1 := by
  rw [cutOptional, cutOptional, cut?_append_of_notMem free]
  cases cut? sep rest <;> rfl

/-- Nothing is left in front of the first delimiter. -/
theorem fst_cutOptional_cons (sep : Char) (rest : List Char) :
    (cutOptional sep (sep :: rest)).1 = [] := by
  rw [cutOptional, cut?, if_pos rfl]

/-- Nothing is left of a query and a fragment. -/
theorem cutOptional_behindPath (query fragment : Option (List Char)) :
    (cutOptional '?' (cutOptional '#' (behindPath query fragment)).1).1 = [] := by
  cases query with
  | none =>
    cases fragment with
    | none => rfl
    | some fragment =>
      show (cutOptional '?' (cutOptional '#' ('#' :: fragment)).1).1 = []
      rw [fst_cutOptional_cons]
      rfl
  | some query =>
    -- The fragment, if any, begins behind the question mark.
    have mark : '#' ∉ ['?'] := by decide
    show (cutOptional '?' (cutOptional '#' (['?'] ++ _)).1).1 = []
    rw [fst_cutOptional_append mark]
    exact fst_cutOptional_cons '?' _

/-- A query and a fragment are cut off what stands in front of them. -/
theorem cutOptional_append_behindPath {front : List Char} (noQuery : '?' ∉ front)
    (noFragment : '#' ∉ front) (query fragment : Option (List Char)) :
    (cutOptional '?' (cutOptional '#' (front ++ behindPath query fragment)).1).1 = front := by
  rw [fst_cutOptional_append noFragment, fst_cutOptional_append noQuery, cutOptional_behindPath,
    List.append_nil]

/-- The authority ends in front of the path. -/
theorem splitAuthority_slashes (plainHost : IsPlainHost host) (rooted : path.head? = some '/')
    (rest : List Char) :
    UrlParts.splitAuthority ('/' :: '/' :: (host ++ (path ++ rest))) = (host, path ++ rest) := by
  have within : ∀ c ∈ host, (!UrlParts.endsAuthority c) = true := by
    intro c isIn
    simp only [UrlParts.endsAuthority, Bool.not_eq_true', Bool.or_eq_false_iff,
      beq_eq_false_iff_ne]
    refine ⟨⟨?_, ?_⟩, ?_⟩
    all_goals
      rintro rfl
      exact plainHost.free _ (by decide) isIn
  have ends : ∀ c ∈ (path ++ rest).head?, (!UrlParts.endsAuthority c) = false := by
    intro c isFirst
    rw [List.head?_append, rooted] at isFirst
    obtain rfl := Option.some.inj isFirst
    decide
  rw [UrlParts.splitAuthority, takeWhile_append_of_head within ends,
    dropWhile_append_of_head within ends]

/-- The scheme ends at the first colon. -/
theorem splitScheme_http (rest : List Char) :
    splitScheme ("http".toList ++ ':' :: rest) = ("http".toList, rest) := by
  have free : ':' ∉ "http".toList := by decide
  have isScheme : ("http".toList.isEmpty || ("http".toList.all UrlParts.isSchemeChar &&
      ("http".toList.head?.map UrlParts.isLetter).getD false)) = true := by decide
  rw [splitScheme, cut?_append free]
  simp only [isScheme, if_true]

/-- The strict reading tells the parts of an address apart. -/
theorem parse_addressBelow (plainHost : IsPlainHost host) (plainPath : IsPlainPath path)
    (query fragment : Option (List Char)) :
    ∃ query' fragment', Raw.parse (addressBelow host path query fragment) =
      { scheme := "http".toList, authority := host, path, query := query', fragment := fragment' } := by
  have free {sep : Char} (notScheme : sep ∉ "http".toList) (notSlash : sep ∉ [':', '/', '/'])
      (notHost : sep ∉ host) (notPath : sep ∉ path) :
      sep ∉ "http".toList ++ ':' :: '/' :: '/' :: (host ++ path) := by
    simp only [List.mem_cons, List.not_mem_nil, or_false, not_or] at notSlash
    simp only [List.mem_append, List.mem_cons, not_or]
    exact ⟨notScheme, notSlash.1, notSlash.2.1, notSlash.2.2, notHost, notPath⟩
  have front := cutOptional_append_behindPath
    (free (by decide) (by decide) (plainHost.free '?' (by decide)) plainPath.noQuery)
    (free (by decide) (by decide) (plainHost.free '#' (by decide)) plainPath.noFragment)
    query fragment
  have address : addressBelow host path query fragment =
      "http".toList ++ ':' :: '/' :: '/' :: (host ++ path) ++ behindPath query fragment := by
    rw [addressBelow, List.append_assoc, List.cons_append, List.cons_append, List.cons_append,
      List.append_assoc]
  rw [← address] at front
  have parts := splitAuthority_slashes plainHost plainPath.rooted []
  rw [List.append_nil] at parts
  -- The query and the fragment are cut off, and what they are does not matter.
  rw [Raw.parse]
  dsimp only
  rw [front, splitScheme_http]
  dsimp only
  rw [parts]
  exact ⟨_, _, rfl⟩

/-- A path without dot segments has none to resolve. -/
theorem resolveDots_of_plain (plainPath : IsPlainPath path) : resolveDots path = path := by
  have enters (segments done : List (List Char))
      (noDots : ∀ segment ∈ segments, segment ≠ ['.'] ∧ segment ≠ ['.', '.']) :
      segments.foldl enterSegment done = segments.reverse ++ done := by
    induction segments generalizing done with
    | nil => rfl
    | cons segment segments ih =>
      rw [List.forall_mem_cons] at noDots
      obtain ⟨⟨notDot, notUp⟩, noDots⟩ := noDots
      rw [List.foldl_cons, enterSegment, if_neg notDot, if_neg notUp, ih _ noDots,
        List.reverse_cons, List.append_assoc, List.singleton_append]
  rw [resolveDots, enters _ _ plainPath.noDots, List.append_nil, List.reverse_reverse,
    splitAll_eq_splitOn, List.intercalate_splitOn]

/-- A plain host is all of its authority. -/
theorem splitAuthority_of_plain (plainHost : IsPlainHost host) :
    splitAuthority host = ([], host, []) := by
  have other (sep : Char) (isDelimiter : sep ∈ "/?#@:[]".toList) : ∀ c ∈ host, (c != sep) = true := by
    intro c isIn
    rw [bne_iff_ne]
    rintro rfl
    exact plainHost.free c isDelimiter isIn
  have whole : (host.reverse.takeWhile (· != '@')).reverse = host := by
    rw [List.takeWhile_eq_self_iff.mpr, List.reverse_reverse]
    intro c isIn
    exact other '@' (by decide) c (List.mem_reverse.mp isIn)
  have unbracketed : ¬(host.head? = some '[' ∧ host.contains ']' = true) := by
    rintro ⟨-, closes⟩
    exact plainHost.free ']' (by decide) (List.contains_iff_mem.mp closes)
  rw [splitAuthority]
  simp only [whole, if_neg unbracketed, List.takeWhile_eq_self_iff.mpr (other ':' (by decide))]
  simp

/-! ## The normal form -/

/-- What a sequence gives comes from what its first part gives. -/
theorem exists_of_bind {ε α β : Type} {first : Except ε α} {later : α → Except ε β} {b : β}
    (gives : first >>= later = .ok b) : ∃ a, first = .ok a ∧ later a = .ok b := by
  cases first with
  | error fault => cases gives
  | ok a => exact ⟨a, rfl, gives⟩

/-- What the normal form takes from the parts. -/
theorem exists_of_normalize {raw : Raw} {url : Url} (normal : raw.normalize = .ok url) :
    normalHost (splitAuthority raw.authority).2.1 = .ok url.host ∧
      url.scheme = raw.scheme.map lowerAscii ∧
      (url.scheme ≠ [] → url.path = Percent.encode isPathChar (resolveDots raw.path)) := by
  rw [Raw.normalize] at normal
  obtain ⟨host, isHost, normal⟩ := exists_of_bind normal
  obtain ⟨port, -, normal⟩ := exists_of_bind normal
  obtain ⟨-, -, normal⟩ := exists_of_bind normal
  obtain rfl := Except.ok.inj normal
  refine ⟨isHost, rfl, fun hasScheme => ?_⟩
  have scheme : (raw.scheme.map lowerAscii).isEmpty = false := by simpa using hasScheme
  simp only [scheme, Bool.not_false, Bool.true_or, if_true]

/-- A plain host has a normal form that is a host. -/
theorem ne_nil_of_normalHost {normal : List Char} (plainHost : IsPlainHost host)
    (isNormal : normalHost host = .ok normal) : normal ≠ [] := by
  have given : ¬host.isEmpty = true := by simp [plainHost.nonempty]
  have unbracketed : ¬(host.head? = some '[' ∧ host.getLast? = some ']' ∧ 2 ≤ host.length) := by
    rintro ⟨opens, -, -⟩
    exact plainHost.free '[' (by decide) (List.mem_of_head? opens)
  rw [normalHost, if_neg given] at isNormal
  by_cases version4 : Address.looksLikeVersion4 host = true
  · rw [if_pos version4] at isNormal
    split at isNormal
    next =>
      obtain rfl := Except.ok.inj isNormal
      exact plainHost.nonempty
    next => cases isNormal
  · rw [if_neg version4, if_neg unbracketed, if_pos (List.all_eq_true.mpr plainHost.ascii)]
      at isNormal
    obtain rfl := Except.ok.inj isNormal
    exact Percent.encode_ne_nil (by simp [plainHost.nonempty])

/-- A URL that is read is the normal form of its parts, and none of its characters is a control. -/
theorem normalize_of_parse {s : String} {url : Url} (accepted : parse s = .ok url) :
    (Raw.parse s.toList).normalize = .ok url ∧ ∀ c ∈ s.toList, isControl c = false := by
  rw [parse] at accepted
  split at accepted
  next => cases accepted
  next =>
    split at accepted
    next => cases accepted
    next visible =>
      refine ⟨accepted, fun c isIn => ?_⟩
      simpa using List.findIdx?_eq_none_iff.mp visible c isIn

/-- An address is asked for as it is, by the path without the escapes that it has. -/
theorem requestPath_of_parse {url : Url} (plainHost : IsPlainHost host)
    (plainPath : IsPlainPath path)
    (accepted : parse (String.ofList (addressBelow host path query fragment)) = .ok url) :
    url.forRequest = .ok url ∧ url.requestPath = String.ofList (Percent.decode path) := by
  obtain ⟨normal, -⟩ := normalize_of_parse accepted
  obtain ⟨query', fragment', parts⟩ := parse_addressBelow plainHost plainPath query fragment
  rw [String.toList_ofList, parts] at normal
  obtain ⟨isHost, scheme, normalPath⟩ := exists_of_normalize normal
  rw [splitAuthority_of_plain plainHost] at isHost
  -- The scheme and the host are there, so the URL says where to connect to.
  have hasScheme : url.scheme ≠ [] := by
    rw [scheme]
    exact List.cons_ne_nil _ _
  have hasHost : url.host ≠ [] := ne_nil_of_normalHost plainHost isHost
  have isAbsolute : url.isAbsolute = true := by simp [Url.isAbsolute, hasScheme, hasHost]
  -- Its path has no dot segments, so it differs from the given one by escapes only.
  have normalPath := normalPath hasScheme
  rw [resolveDots_of_plain plainPath] at normalPath
  have hasPath : url.path ≠ [] := by
    rw [normalPath]
    apply Percent.encode_ne_nil
    rintro rfl
    cases plainPath.rooted
  refine ⟨by rw [forRequest, if_pos isAbsolute], ?_⟩
  rw [requestPath, if_neg (by simp [hasPath]), normalPath, Percent.decode_encode]

end Url

namespace UrlParts

/-! ## The lenient reading -/

/-- A text that begins with a visible character and has no controls is clean. -/
theorem clean_eq_self {c : Char} {rest : List Char} (begins : 0x20 < c.toNat)
    (visible : ∀ d ∈ c :: rest, Url.isControl d = false) : clean (c :: rest) = c :: rest := by
  have first : (c :: rest).dropWhile (fun d => d.toNat ≤ 0x20) = c :: rest := by
    apply List.dropWhile_cons_of_neg
    simpa using begins
  rw [clean, first, List.filter_eq_self]
  intro d isIn
  have shown := visible d isIn
  simp only [Bool.and_eq_true, bne_iff_ne]
  refine ⟨⟨?_, ?_⟩, ?_⟩
  all_goals
    rintro rfl
    cases shown

/-- A host in ASCII without brackets has no fault. -/
theorem authorityFault?_of_plain (plainHost : IsPlainHost host) : authorityFault? host = none := by
  have noBracket (bracket : Char) (isDelimiter : bracket ∈ "/?#@:[]".toList) :
      host.contains bracket = false := by
    rw [← Bool.not_eq_true, List.contains_iff_mem]
    exact plainHost.free bracket isDelimiter
  have noneHidden : host.any hiddenDelimiters.contains = false := by
    have beyond : hiddenDelimiters.all (fun c => !isAscii c) = true := by decide
    rw [List.any_eq_false]
    intro c isIn isHidden
    have hidden := List.all_eq_true.mp beyond c (List.contains_iff_mem.mp isHidden)
    rw [plainHost.ascii c isIn] at hidden
    cases hidden
  rw [authorityFault?, bracketFault?, noBracket '[' (by decide), noBracket ']' (by decide),
    noneHidden]
  rfl

/-- Both readings cut the same first part off. -/
theorem fst_cutOff (sep : Char) (s : List Char) :
    (cutOff sep s).1 = (Url.cutOptional sep s).1 := by
  rw [cutOff, Url.cutOptional]
  cases cut? sep s <;> rfl

/-- The scheme ends at the first colon. -/
theorem splitScheme_http (rest : List Char) :
    splitScheme ("http".toList ++ ':' :: rest) = some ("http".toList, rest) := by
  have free : ':' ∉ "http".toList := by decide
  have isScheme : ("http".toList.all isSchemeChar &&
      ("http".toList.head?.map isLetter).getD false) = true := by decide
  rw [splitScheme, cut?_append free, Option.filter_some]
  simp only [isScheme, if_true]

/-- The lenient reading finds the path of an address. -/
theorem parse_addressBelow (plainHost : IsPlainHost host) (plainPath : IsPlainPath path)
    (visible : ∀ c ∈ addressBelow host path query fragment, Url.isControl c = false) :
    ∃ parts, parse (addressBelow host path query fragment) = .ok parts ∧ parts.path = path := by
  have clean : clean (addressBelow host path query fragment) =
      addressBelow host path query fragment := clean_eq_self (by decide) visible
  have parts := Url.splitAuthority_slashes plainHost plainPath.rooted (behindPath query fragment)
  have path' :=
    Url.cutOptional_append_behindPath plainPath.noQuery plainPath.noFragment query fragment
  rw [parse, clean, addressBelow, splitScheme_http]
  dsimp only [Option.getD_some]
  rw [parts]
  dsimp only
  rw [authorityFault?_of_plain plainHost]
  refine ⟨_, rfl, ?_⟩
  -- What is left to be cut is cut as in the strict reading.
  dsimp only
  rw [fst_cutOff, fst_cutOff, path']

end UrlParts

end Http

namespace FileInfo

open Http

variable {host path : List Char} {query fragment : Option (List Char)} {url : Url}
  {fields : List (String × String)} {made : Headers}

/-- The path that a URL and a mapping of header fields give is the one that the response to a request
for the URL gives, whatever its escapes are: the text of the bytes that the path stands for. -/
theorem urlPath_eq_of_parse (plainHost : IsPlainHost host) (plainPath : IsPlainPath path)
    (accepted : Url.parse (String.ofList (addressBelow host path query fragment)) = .ok url)
    (isMapping : Headers.ofMapping fields = .ok made) :
    url.forRequest = .ok url ∧
      ∃ info, ofUrl (String.ofList (addressBelow host path query fragment)) fields = .ok info ∧
        info.urlPath = String.ofList (Utf8.decodeLossy (Percent.bytes path)) ∧
        ∀ answered, info.urlPath = (ofResponse url answered).urlPath := by
  obtain ⟨asked, requestPath⟩ := Url.requestPath_of_parse plainHost plainPath accepted
  obtain ⟨-, visible⟩ := Url.normalize_of_parse accepted
  rw [String.toList_ofList] at visible
  obtain ⟨parts, read, path'⟩ := UrlParts.parse_addressBelow plainHost plainPath visible
  refine ⟨asked, ofHeaders (String.ofList (Percent.decode parts.path)) made, ?_, ?_, ?_⟩
  · rw [ofUrl, isMapping, String.toList_ofList, read]
    rfl
  · show String.ofList (Percent.decode parts.path) = _
    rw [path', Percent.decode_eq_decodeLossy]
  · intro answered
    show String.ofList (Percent.decode parts.path) = url.requestPath
    rw [requestPath, path']

/-- A path with an escaped slash, an escaped dot, percent signs that begin no escape, and characters
beyond ASCII between escapes that make up a character and one that makes up none. -/
def mixedPath : List Char := "/a%2Fb/%2e%zz/é%C3é%c3%A9%".toList

/-- The response to a request for such a path gives it as the URL does. -/
theorem urlPath_eq_of_mixedPath :
    IsPlainHost ['h'] ∧ IsPlainPath mixedPath ∧
      ∃ url info,
        Url.parse (String.ofList
          (addressBelow ['h'] mixedPath (some "q=%".toList) (some "f?".toList))) = .ok url ∧
        ofUrl (String.ofList
          (addressBelow ['h'] mixedPath (some "q=%".toList) (some "f?".toList))) [] = .ok info ∧
        ∀ answered, info.urlPath = (ofResponse url answered).urlPath := by
  have plainHost : IsPlainHost ['h'] := ⟨by decide, by simp [isAscii], by simp⟩
  have plainPath : IsPlainPath mixedPath :=
    ⟨by decide +kernel, by decide +kernel, by decide +kernel, by decide +kernel⟩
  have accepted : (Url.parse (String.ofList (addressBelow ['h'] mixedPath
      (some "q=%".toList) (some "f?".toList)))).toOption.isSome = true := by decide +kernel
  refine ⟨plainHost, plainPath, ?_⟩
  cases parsed : Url.parse (String.ofList (addressBelow ['h'] mixedPath
      (some "q=%".toList) (some "f?".toList))) with
  | error fault =>
    rw [parsed] at accepted
    cases accepted
  | ok url =>
    obtain ⟨-, info, isInfo, -, same⟩ := urlPath_eq_of_parse plainHost plainPath parsed
      (show Headers.ofMapping [] = .ok _ from rfl)
    exact ⟨url, info, rfl, isInfo, same⟩

end FileInfo

end SafeFetch
