import RemoteFlags.Proofs.Url.Percent
import RemoteFlags.Url.Parse

/-!
# Paths of URLs for servers

A path is written with a slash before every segment, so it can be taken apart again only if no segment
holds a slash.  Reading a URL for a server gives a path like that, with at least one segment.  A text
that is pushed behind it becomes one more segment, unless it reads as one or two dots once tabs and
line breaks are left out.

## Main definitions

* `IsPlainSegment s` — the text ends no segment, path or URL.
* `withoutLastSlash s` — a written path without a slash at its end.
* `stem segments` — what further segments are put behind.
* `kept s` — the characters of a text that are pushed.

## Main results

* `path_of_parse` — **the path of a URL for a server.**
* `pathText_stem` — the stem is the path without its last slash.
* `text_eq_iff` — URLs that differ at most in their paths are written alike when these are.
* `isSingleDot_written`, `isDoubleDot_written` — which texts do not become a segment.
-/

namespace RemoteFlags

namespace Url

open Text

/-! ### Plain segments -/

/-- The characters that end a segment, a path or a URL. -/
def separators : List Char := ['/', '\\', '?', '#']

/-- A text that holds none of them. -/
def IsPlainSegment (s : String) : Prop := ∀ c ∈ separators, c ∉ s.toList

theorem isPlainSegment_empty : IsPlainSegment "" := fun _ _ h => List.not_mem_nil h

/-- The separators are written with no other character. -/
theorem ne_percent_of_separator : ∀ c ∈ separators, c ≠ '%' ∧ c ∉ upperHexDigits := by
  have hall : separators.all (fun c => decide (c ≠ '%' ∧ c ∉ upperHexDigits)) = true := by decide
  intro c hc
  exact of_decide_eq_true (List.all_eq_true.mp hall c hc)

/-- The parts of a path are plain: the slashes end them, and the other separators are encoded. -/
theorem isPlainSegment_of_mem_encodedSegments {cs : List Char} {s : String}
    (h : s ∈ encodedSegments .network cs) : IsPlainSegment s := by
  obtain ⟨part, hpart, rfl⟩ := List.mem_map.mp h
  have hends := not_of_mem_parts (endsSegment .network) cs part hpart
  intro c hc hmem
  rw [String.toList_ofList] at hmem
  obtain ⟨hpercent, hdigit⟩ := ne_percent_of_separator c hc
  have hset : separators.all (fun c => endsSegment .network c || inPath c) = true := by decide
  rcases Bool.or_eq_true_iff.mp (List.all_eq_true.mp hset c hc) with hslash | hencoded
  · have hnot := hends c (mem_of_mem_percentEncode hpercent hdigit hmem)
    rw [hslash] at hnot
    exact Bool.noConfusion hnot
  · exact not_mem_percentEncode hencoded hpercent hdigit part hmem

/-! ### Reading paths -/

theorem subset_shorten (segments : List String) : shorten segments ⊆ segments := by
  unfold shorten
  split
  · split
    · exact List.Subset.refl _
    · exact List.dropLast_subset _
  · exact List.nil_subset _

/-- What follows one or two dots: an empty segment, if they end the path. -/
def ending (last : Bool) : List String := if last then [""] else []

/-- One more segment, case by case. -/
theorem addSegment_eq (segments : List String) (s : String) (last : Bool) :
    addSegment segments s last =
      if isDoubleDot s then shorten segments ++ ending last
      else if isSingleDot s then segments ++ ending last
      else segments ++ [s] := by
  have hended : ∀ l : List String, (if last then l ++ [""] else l) = l ++ ending last := by
    intro l
    cases last with
    | false => exact (List.append_nil l).symm
    | true => rfl
  simp only [addSegment, hended]

theorem mem_addSegment {segments : List String} {s t : String} {last : Bool}
    (h : t ∈ addSegment segments s last) : t ∈ segments ∨ t = s ∨ t = "" := by
  have hending : t ∈ ending last → t = "" := by
    intro ht
    cases last with
    | false => exact absurd ht List.not_mem_nil
    | true => exact List.mem_singleton.mp ht
  rw [addSegment_eq] at h
  split at h
  · rcases List.mem_append.mp h with h | h
    · exact .inl (subset_shorten segments h)
    · exact .inr (.inr (hending h))
  split at h
  · rcases List.mem_append.mp h with h | h
    · exact .inl h
    · exact .inr (.inr (hending h))
  · rcases List.mem_append.mp h with h | h
    · exact .inl h
    · exact .inr (.inl (List.mem_singleton.mp h))

theorem mem_addSegments {segments l : List String} {t : String}
    (h : t ∈ addSegments segments l) : t ∈ segments ∨ t ∈ l ∨ t = "" := by
  -- Induction along the recursion, over all paths that the segments are put behind.
  induction l generalizing segments with
  | nil => exact .inl h
  | cons s l ih =>
    have hone : ∀ last, t ∈ addSegment segments s last → t ∈ segments ∨ t ∈ s :: l ∨ t = "" := by
      intro last hadd
      rcases mem_addSegment hadd with h | rfl | h
      · exact .inl h
      · exact .inr (.inl List.mem_cons_self)
      · exact .inr (.inr h)
    cases l with
    | nil => exact hone true h
    | cons s' l =>
      rcases ih h with h | h | h
      · exact hone false h
      · exact .inr (.inl (List.mem_cons_of_mem s h))
      · exact .inr (.inr h)

theorem addSegment_last_ne_nil (segments : List String) (s : String) :
    addSegment segments s true ≠ [] := by
  rw [addSegment_eq]
  split
  · simp [ending]
  split <;> simp [ending]

theorem addSegments_ne_nil {l : List String} (h : l ≠ []) (segments : List String) :
    addSegments segments l ≠ [] := by
  induction l generalizing segments with
  | nil => exact absurd rfl h
  | cons s l ih =>
    cases l with
    | nil => exact addSegment_last_ne_nil segments s
    | cons s' l => exact ih (List.cons_ne_nil s' l) _

/-- A path that is read has a segment, and all its segments are plain. -/
theorem resolvePath_network (cs : List Char) :
    resolvePath .network [] cs ≠ [] ∧ ∀ s ∈ resolvePath .network [] cs, IsPlainSegment s := by
  refine ⟨addSegments_ne_nil ?_ [], ?_⟩
  · rw [encodedSegments, Ne, List.map_eq_nil_iff]
    exact parts_ne_nil _ cs
  · intro s hs
    rcases mem_addSegments hs with h | h | rfl
    · exact absurd h List.not_mem_nil
    · exact isPlainSegment_of_mem_encodedSegments h
    · exact isPlainSegment_empty

theorem pathAfterAuthority_network (cs : List Char) :
    pathAfterAuthority .network cs ≠ [] ∧
      ∀ s ∈ pathAfterAuthority .network cs, IsPlainSegment s := by
  cases cs with
  | nil =>
    refine ⟨List.cons_ne_nil _ _, fun s hs => ?_⟩
    obtain rfl := List.mem_singleton.mp hs
    exact isPlainSegment_empty
  | cons c cs => exact resolvePath_network _

/-! ### Reading URLs -/

theorem readAuthority_ok {scheme : String} {cs : List Char} {u : Url}
    (h : readAuthority scheme cs = .ok u) :
    u.scheme = scheme ∧ u.host.isSome = true ∧
      ∃ path, u.segments = pathAfterAuthority (Kind.ofScheme scheme) path := by
  simp only [readAuthority, bind, Except.bind, pure, Except.pure] at h
  split at h
  · simp at h
  split at h
  · simp at h
  split at h
  · simp at h
  obtain rfl := Except.ok.inj h
  exact ⟨rfl, rfl, _, rfl⟩

theorem scheme_of_readFile {cs : List Char} {u : Url} (h : readFile cs = .ok u) :
    u.scheme = "file" := by
  suffices hfile : ∃ host path, fileUrl host path = u by
    obtain ⟨host, path, rfl⟩ := hfile
    rfl
  simp only [readFile, bind, Except.bind, pure, Except.pure] at h
  split at h
  · split at h
    · split at h
      · exact ⟨_, _, Except.ok.inj h⟩
      -- A host has to be a name, unless it is missing.
      · split at h
        · exact ⟨_, _, Except.ok.inj h⟩
        split at h
        · simp at h
        · exact ⟨_, _, Except.ok.inj h⟩
    · exact ⟨_, _, Except.ok.inj h⟩
  · exact ⟨_, _, Except.ok.inj h⟩

theorem scheme_of_readGeneral {scheme : String} {cs : List Char} {u : Url}
    (h : readGeneral scheme cs = .ok u) : u.scheme = scheme := by
  unfold readGeneral at h
  split at h
  · exact (readAuthority_ok h).1
  · obtain rfl := Except.ok.inj h
    rfl
  · simp at h

/-- **The path of a URL for a server**: behind its host it has at least one segment, and all of them are
plain. -/
theorem path_of_parse {s : String} {u : Url} (h : parse s = .ok u)
    (hkind : Kind.ofScheme u.scheme = .network) :
    u.host.isSome = true ∧ u.segments ≠ [] ∧ ∀ t ∈ u.segments, IsPlainSegment t := by
  unfold parse at h
  split at h
  · next scheme rest _ =>
    unfold readAfterScheme at h
    split at h
    · next hscheme =>
      obtain ⟨-, hhost, path, hsegments⟩ := readAuthority_ok h
      rw [hsegments, hscheme]
      exact ⟨hhost, pathAfterAuthority_network path⟩
    -- The other schemes are not those of servers.
    · next hscheme =>
      rw [scheme_of_readFile h] at hkind
      exact absurd hkind (by decide)
    · next hscheme =>
      rw [scheme_of_readGeneral h, hscheme] at hkind
      cases hkind
  · simp at h

/-! ### Written paths -/

@[simp] theorem pathText_nil : pathText [] = "" := rfl

theorem pathText_append (l l' : List String) : pathText (l ++ l') = pathText l ++ pathText l' := by
  simp only [pathText, List.map_append, String.join_append]

theorem pathText_singleton (s : String) : pathText [s] = "/" ++ s := by
  simp [pathText]

theorem pathText_concat (l : List String) (s : String) :
    pathText (l ++ [s]) = pathText l ++ "/" ++ s := by
  rw [pathText_append, pathText_singleton, String.append_assoc]

/-- A written path without a slash at its end. -/
def withoutLastSlash (s : String) : String :=
  if s.toList.getLast? = some '/' then String.ofList s.toList.dropLast else s

theorem withoutLastSlash_slash (s : String) : withoutLastSlash (s ++ "/") = s := by
  have hlist : (s ++ "/").toList = s.toList ++ ['/'] := String.toList_append
  simp [withoutLastSlash, hlist]

/-- A path that ends with a segment has no slash at its end. -/
theorem withoutLastSlash_segment {s : String} (hne : s ≠ "") (hplain : IsPlainSegment s)
    (front : String) : withoutLastSlash (front ++ s) = front ++ s := by
  have hlist : s.toList ≠ [] := by
    intro h
    exact hne (String.toList_inj.mp h)
  have hlast : (front ++ s).toList.getLast? = s.toList.getLast? := by
    rw [String.toList_append, List.getLast?_append, List.getLast?_eq_some_getLast hlist]
    rfl
  rw [withoutLastSlash, hlast, if_neg]
  intro hslash
  exact hplain '/' (by decide) (List.mem_of_getLast? hslash)

/-- The segments that further ones are put behind: an empty one at the end gives way to them. -/
def stem (segments : List String) : List String :=
  if popEmptySegment segments = [""] then [] else popEmptySegment segments

/-- The stem is the path without its last slash, unless the path is nothing but two slashes. -/
theorem pathText_stem {segments : List String} (hne : segments ≠ [])
    (hplain : ∀ s ∈ segments, IsPlainSegment s) (hslashes : pathText segments ≠ "//") :
    pathText (stem segments) = withoutLastSlash (pathText segments) := by
  obtain ⟨init, last, rfl⟩ : ∃ init last, segments = init ++ [last] :=
    ⟨_, _, (List.dropLast_concat_getLast hne).symm⟩
  rw [pathText_concat]
  by_cases hlast : last = ""
  · subst hlast
    rw [String.append_empty, withoutLastSlash_slash]
    cases init with
    | nil => rfl
    | cons s init =>
      have hpop : popEmptySegment (s :: init ++ [""]) = s :: init := by
        rw [popEmptySegment, if_pos ⟨by simp, List.getLast?_concat⟩, List.dropLast_concat]
      have hinit : s :: init ≠ [""] := by
        intro h
        rw [h] at hslashes
        exact hslashes rfl
      rw [stem, hpop, if_neg hinit]
  · have hpop : popEmptySegment (init ++ [last]) = init ++ [last] := by
      rw [popEmptySegment, if_neg]
      rintro ⟨-, h⟩
      exact hlast (by simpa using h)
    have hroot : init ++ [last] ≠ [""] := by
      intro h
      have hlasts := congrArg List.getLast? h
      exact hlast (by simpa using hlasts)
    rw [stem, hpop, if_neg hroot, pathText_concat,
      withoutLastSlash_segment hlast (hplain last (by simp))]

/-! ### Written URLs -/

theorem text_of_host {u : Url} (h : u.host.isSome = true) :
    u.text = u.scheme ++ ":" ++ u.authorityText ++ pathText u.segments ++
      endText u.query u.fragment := by
  obtain ⟨host, hhost⟩ := Option.isSome_iff_exists.mp h
  have hmark : u.pathMark = "" := by
    unfold pathMark
    rw [hhost]
  rw [text, hmark, String.append_empty]

theorem text_of_segments {u : Url} (h : u.host.isSome = true) (l : List String) :
    ({ u with segments := l } : Url).text =
      u.scheme ++ ":" ++ u.authorityText ++ pathText l ++ endText u.query u.fragment :=
  text_of_host (u := { u with segments := l }) h

/-- URLs that differ at most in their paths are written alike exactly when these are. -/
theorem text_eq_iff {u : Url} (h : u.host.isSome = true) (l l' : List String) :
    ({ u with segments := l } : Url).text = ({ u with segments := l' } : Url).text ↔
      pathText l = pathText l' := by
  rw [text_of_segments h, text_of_segments h, String.append_left_inj, String.append_right_inj]

/-! ### Texts that are pushed -/

/-- The characters of a text that URLs do not leave out. -/
def kept (s : String) : List Char := s.toList.filter fun c => !isLeftOut c

theorem kept_eq_toList {s : String} (h : ∀ c ∈ s.toList, isLeftOut c = false) :
    kept s = s.toList := by
  rw [kept, List.filter_eq_self]
  intro c hc
  rw [h c hc]
  rfl

/-- The segment that characters become on the path of a URL for a server. -/
def written (cs : List Char) : String := String.ofList (percentEncode inSpecialSegment cs)

theorem segmentText_network (s : String) : segmentText .network s = written (kept s) := rfl

theorem written_injective {cs ds : List Char} (h : written cs = written ds) : cs = ds :=
  percentEncode_injective reversible_inSpecialSegment (String.ofList_injective h)

/-- **What is written reads back.** -/
theorem decodeText_written (cs : List Char) : decodeText (written cs) = utf8Chars cs := by
  rw [decodeText, utf8, written, String.toList_ofList]
  exact percentDecode_percentEncode reversible_inSpecialSegment cs

theorem isPlainSegment_written (cs : List Char) : IsPlainSegment (written cs) := by
  intro c hc
  obtain ⟨hpercent, hdigit⟩ := ne_percent_of_separator c hc
  have hset : separators.all inSpecialSegment = true := by decide
  rw [written, String.toList_ofList]
  exact not_mem_percentEncode (List.all_eq_true.mp hset c hc) hpercent hdigit cs

/-- The spellings of dots with percent signs do not come from any text. -/
theorem eq_of_decodeText_written {cs ds : List Char}
    (h : decodeText (written cs) = utf8Chars ds) : cs = ds := by
  rw [decodeText_written] at h
  exact utf8Chars_injective h

theorem isSingleDot_written (cs : List Char) : isSingleDot (written cs) = true ↔ cs = ['.'] := by
  constructor
  · intro h
    have hspellings : ∀ s ∈ [".", "%2e", "%2E"], decodeText s = utf8Chars ['.'] := by decide
    exact eq_of_decodeText_written (hspellings _ (by simpa [isSingleDot] using h))
  · rintro rfl
    decide

theorem isDoubleDot_written (cs : List Char) :
    isDoubleDot (written cs) = true ↔ cs = ['.', '.'] := by
  constructor
  · intro h
    have hspellings : ∀ s ∈ ["..", ".%2e", ".%2E", "%2e.", "%2E.", "%2e%2e", "%2e%2E", "%2E%2e",
        "%2E%2E"], decodeText s = utf8Chars ['.', '.'] := by decide
    exact eq_of_decodeText_written (hspellings _ (by simpa [isDoubleDot] using h))
  · rintro rfl
    decide

end Url

end RemoteFlags
