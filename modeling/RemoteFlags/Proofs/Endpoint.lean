import RemoteFlags.Proofs.Url.Path
import RemoteFlags.Provider.Request

/-!
# Where requests go

Requests for flags go below the place of the server: to one place for all flags, and to one segment
behind it for a single flag.  A key is pushed as that segment in such a way that it can be read back,
with three exceptions: the keys `.` and `..` are not pushed at all, and tabs and line breaks are left out
of every key.  Keys that only differ in what is left out share their place, and the keys `.` and `..`
share the one of all flags.

## Main definitions

* `IsSegmentKey key` — a key that none of this happens to.
* `Destination`, `destination key` — where the request for a flag, or for all flags, ends up.

## Main results

* `segments_endpoint` — the path of a request.
* `endpoint_of_key` — **where requests go**, and that the key can be read back.
* `endpoint_eq_iff` — **which requests go to the same place.**
* `not_apart` — keys that share their place.
-/

namespace RemoteFlags
namespace Remote

open Url (kept written stem pathText)

/-! ### Destinations -/

/-- A key that becomes a segment as it is. -/
structure IsSegmentKey (key : String) : Prop where
  /-- It is not one dot. -/
  ne_dot : key ≠ "."
  /-- It is not two dots. -/
  ne_dots : key ≠ ".."
  /-- It holds no tab and no line break. -/
  kept : ∀ c ∈ key.toList, Url.isLeftOut c = false

/-- Keys can be tested. -/
theorem isSegmentKey_iff {key : String} :
    IsSegmentKey key ↔ key ≠ "." ∧ key ≠ ".." ∧ key.toList.all (fun c => !Url.isLeftOut c) = true := by
  rw [List.all_eq_true]
  constructor
  · intro h
    exact ⟨h.ne_dot, h.ne_dots, fun c hc => by rw [h.kept c hc]; rfl⟩
  · rintro ⟨hdot, hdots, hkept⟩
    exact ⟨hdot, hdots, fun c hc => (Bool.not_eq_true' _).mp (hkept c hc)⟩

instance (key : String) : Decidable (IsSegmentKey key) := decidable_of_iff _ isSegmentKey_iff.symm

/-- Where a request ends up. -/
inductive Destination where
  /-- The place of all flags. -/
  | all
  /-- The place above it, with an empty segment at its end. -/
  | above
  /-- The place of one flag, by the characters that are left of its key. -/
  | flag (cs : List Char)
deriving DecidableEq, Repr

/-- Where the request for a flag ends up, or the one for all flags.  Dots that are left of a longer key
take back segments as they do when a path is read. -/
def destination : Option String → Destination
  | none => .all
  | some key =>
    if key = "." ∨ key = ".." then .all
    else if kept key = ['.'] then .flag []
    else if kept key = ['.', '.'] then .above
    else .flag (kept key)

/-- The segments below the place of the server. -/
def Destination.segments : Destination → List String
  | .all => flagsPath
  | .above => ["ofrep", "v1", "evaluate", ""]
  | .flag cs => flagsPath ++ [written cs]

theorem destination_some (key : String) :
    destination (some key) =
      if key = "." ∨ key = ".." then .all
      else if kept key = ['.'] then .flag []
      else if kept key = ['.', '.'] then .above
      else .flag (kept key) := rfl

theorem destination_eq_all_iff {key : String} :
    destination (some key) = .all ↔ key = "." ∨ key = ".." := by
  rw [destination_some]
  by_cases hdots : key = "." ∨ key = ".."
  · rw [if_pos hdots]
    exact iff_of_true rfl hdots
  · rw [if_neg hdots]
    refine iff_of_false ?_ hdots
    split
    · exact nofun
    split <;> exact nofun

theorem destination_of_segmentKey {key : String} (h : IsSegmentKey key) :
    destination (some key) = .flag key.toList := by
  have hkept : kept key = key.toList := Url.kept_eq_toList h.kept
  have hdot : key.toList ≠ ['.'] := fun heq => h.ne_dot (String.toList_inj.mp heq)
  have hdots : key.toList ≠ ['.', '.'] := fun heq => h.ne_dots (String.toList_inj.mp heq)
  rw [destination_some, if_neg (not_or_intro h.ne_dot h.ne_dots), hkept, if_neg hdot, if_neg hdots]

/-- The path of a flag is longer than the other two. -/
theorem lt_length_flag (cs : List Char) :
    24 < (pathText (Destination.flag cs).segments).length := by
  have hpath : pathText (Destination.flag cs).segments =
      pathText flagsPath ++ "/" ++ written cs := Url.pathText_concat _ _
  have hfront : (pathText flagsPath ++ "/").length = 25 := by decide
  rw [hpath, String.length_append, hfront]
  omega

/-- Paths to different destinations are written differently. -/
theorem pathText_segments_inj {d e : Destination} :
    pathText d.segments = pathText e.segments ↔ d = e := by
  refine ⟨fun h => ?_, fun h => by rw [h]⟩
  have hall : (pathText Destination.all.segments).length = 24 := by decide
  have habove : (pathText Destination.above.segments).length = 19 := by decide
  have hlength := congrArg String.length h
  cases d with
  | all =>
    cases e with
    | all => rfl
    | above => omega
    | flag ds =>
      have hlong := lt_length_flag ds
      omega
  | above =>
    cases e with
    | all => omega
    | above => rfl
    | flag ds =>
      have hlong := lt_length_flag ds
      omega
  | flag cs =>
    have hlong := lt_length_flag cs
    cases e with
    | all => omega
    | above => omega
    | flag ds =>
      rw [Destination.segments, Destination.segments, Url.pathText_concat, Url.pathText_concat,
        String.append_right_inj] at h
      rw [Url.written_injective h]

/-! ### Paths of requests -/

theorem pushSegment_of_plain {segments : List String} {s : String} (hdot : s ≠ ".") (hdots : s ≠ "..")
    (hsingle : kept s ≠ ['.']) (hdouble : kept s ≠ ['.', '.']) :
    Url.pushSegment .network segments s =
      (if segments = [""] then [] else segments) ++ [written (kept s)] := by
  have hs : Url.isSingleDot (written (kept s)) ≠ true :=
    fun h => hsingle ((Url.isSingleDot_written _).mp h)
  have hd : Url.isDoubleDot (written (kept s)) ≠ true :=
    fun h => hdouble ((Url.isDoubleDot_written _).mp h)
  rw [Url.pushSegment, if_neg (not_or_intro hdot hdots), Url.segmentText_network, Url.addSegment_eq,
    if_neg hd, if_neg hs]

/-- Names that are written as they are become the segments behind a path. -/
theorem foldl_pushSegment {names : List String} {segments : List String} (hsegments : segments ≠ [""])
    (hnames : ∀ s ∈ names, s ≠ "" ∧ s ≠ "." ∧ s ≠ ".." ∧ kept s ≠ ['.'] ∧ kept s ≠ ['.', '.'] ∧
      written (kept s) = s) :
    names.foldl (Url.pushSegment .network) segments = segments ++ names := by
  induction names generalizing segments with
  | nil => simp
  | cons s names ih =>
    obtain ⟨hempty, hdot, hdots, hsingle, hdouble, hwritten⟩ := hnames s List.mem_cons_self
    have hnext : segments ++ [s] ≠ [""] := by
      intro h
      have hlast := congrArg List.getLast? h
      exact hempty (by simpa using hlast)
    rw [List.foldl_cons, pushSegment_of_plain hdot hdots hsingle hdouble, if_neg hsegments, hwritten,
      ih hnext fun t ht => hnames t (List.mem_cons_of_mem s ht), List.append_assoc]
    rfl

/-- The segments that lead to the flags come behind the stem. -/
theorem foldl_flagsPath (segments : List String) :
    flagsPath.foldl (Url.pushSegment .network) segments =
      (if segments = [""] then [] else segments) ++ flagsPath := by
  by_cases hroot : segments = [""]
  · subst hroot
    decide
  · rw [if_neg hroot]
    exact foldl_pushSegment hroot (by decide)

/-- Behind the place of all flags a key ends up at its destination. -/
theorem pushSegment_key (segments : List String) (key : String) :
    Url.pushSegment .network (segments ++ flagsPath) key =
      segments ++ (destination (some key)).segments := by
  have hflags : segments ++ flagsPath ≠ [""] := by
    intro h
    have hlength := congrArg List.length h
    simp [flagsPath] at hlength
  rw [destination_some]
  by_cases hdots : key = "." ∨ key = ".."
  · rw [if_pos hdots, Url.pushSegment, if_pos hdots]
    rfl
  rw [if_neg hdots, Url.pushSegment, if_neg hdots, if_neg hflags, Url.segmentText_network,
    Url.addSegment_eq]
  by_cases hsingle : kept key = ['.']
  · have hnot : Url.isDoubleDot (written (kept key)) ≠ true := by
      rw [hsingle]
      decide
    rw [if_pos hsingle, if_neg hnot, if_pos ((Url.isSingleDot_written _).mpr hsingle),
      List.append_assoc]
    rfl
  by_cases hdouble : kept key = ['.', '.']
  · -- Two dots take the last segment back, which is no drive.
    have hshorten : Url.shorten (segments ++ flagsPath) = segments ++ ["ofrep", "v1", "evaluate"] := by
      have hsplit : segments ++ flagsPath = (segments ++ ["ofrep", "v1", "evaluate"]) ++ ["flags"] := by
        rw [List.append_assoc]
        rfl
      have hdrive : Url.isDrive "flags" = false := by decide
      rw [hsplit, Url.shorten, List.getLast?_concat]
      simp only [hdrive, List.dropLast_concat]
      rfl
    rw [if_neg hsingle, if_pos hdouble, if_pos ((Url.isDoubleDot_written _).mpr hdouble), hshorten,
      List.append_assoc]
    rfl
  · have hs : Url.isSingleDot (written (kept key)) ≠ true :=
      fun h => hsingle ((Url.isSingleDot_written _).mp h)
    have hd : Url.isDoubleDot (written (kept key)) ≠ true :=
      fun h => hdouble ((Url.isDoubleDot_written _).mp h)
    rw [if_neg hsingle, if_neg hdouble, if_neg hd, if_neg hs, List.append_assoc]
    rfl

/-- **The path of a request**: the stem of the place of the server, and the destination behind it. -/
theorem segments_endpoint {r : Remote} (hkind : Url.Kind.ofScheme r.base.scheme = .network)
    (key : Option String) :
    (r.endpoint key).segments = stem r.base.segments ++ (destination key).segments := by
  have hstem : (flagsPath.foldl (Url.pushSegment .network) (Url.popEmptySegment r.base.segments)) =
      stem r.base.segments ++ flagsPath := foldl_flagsPath _
  simp only [endpoint, hkind, List.foldl_append, hstem]
  cases key with
  | none => rfl
  | some key => exact pushSegment_key _ key

/-- Apart from its path, a request goes to the place of the server. -/
theorem endpoint_eq (r : Remote) (key : Option String) :
    r.endpoint key = { r.base with segments := (r.endpoint key).segments } := by
  simp only [endpoint]

theorem target_of_segments (r : Remote) (l : List String) (c : Context) (mark : Option String) :
    (r.request { r.base with segments := l } c mark).target =
      ({ r.base.withoutUserInfo.withoutFragment with segments := l } : Url).text := rfl

/-! ### Providers that were built -/

section

variable {s : Settings} {now : Instant} {r : Remote}

theorem kind_of_scheme {u : Url} (h : u.scheme = "http" ∨ u.scheme = "https") :
    Url.Kind.ofScheme u.scheme = .network := by
  rcases h with h | h
  · rw [h]
    decide
  · rw [h]
    decide

/-- The place of the server has a host and a path of plain segments. -/
theorem path_of_build (hbuild : s.build now = .ok r)
    (hscheme : r.base.scheme = "http" ∨ r.base.scheme = "https") :
    r.base.host.isSome = true ∧ r.base.segments ≠ [] ∧
      ∀ t ∈ r.base.segments, Url.IsPlainSegment t :=
  Url.path_of_parse (Settings.build_eq_ok_iff.mp hbuild).1
    (kind_of_scheme hscheme)

/-- **Where requests go.**  They go to the place of the server, apart from the path: that is the path of
the place without its last slash, unless it is nothing but two slashes, and behind it the way to the
flags.  A key is one more segment, which no separator ends and which reads back as the key. -/
theorem endpoint_of_key (hbuild : s.build now = .ok r)
    (hscheme : r.base.scheme = "http" ∨ r.base.scheme = "https")
    (hpath : pathText r.base.segments ≠ "//") :
    let root := Url.withoutLastSlash (pathText r.base.segments) ++ "/ofrep/v1/evaluate/flags"
    (∀ key, r.endpoint key = { r.base with segments := (r.endpoint key).segments } ∧
      (r.endpoint key).text = r.base.scheme ++ ":" ++ r.base.authorityText ++
        pathText (r.endpoint key).segments ++ Url.endText r.base.query r.base.fragment) ∧
    pathText (r.endpoint none).segments = root ∧
    ∀ key, IsSegmentKey key → ∃ seg,
      (r.endpoint (some key)).segments = (r.endpoint none).segments ++ [seg] ∧
      pathText (r.endpoint (some key)).segments = root ++ "/" ++ seg ∧
      Url.IsPlainSegment seg ∧ Url.decodeText seg = Text.utf8 key := by
  intro root
  obtain ⟨hhost, hne, hplain⟩ := path_of_build hbuild hscheme
  have hsegments := segments_endpoint (kind_of_scheme hscheme)
  have hall : pathText (r.endpoint none).segments = root := by
    rw [hsegments, Url.pathText_append, Url.pathText_stem hne hplain hpath]
    rfl
  have htext : ∀ key, (r.endpoint key).text = r.base.scheme ++ ":" ++ r.base.authorityText ++
      pathText (r.endpoint key).segments ++ Url.endText r.base.query r.base.fragment := fun key =>
    (congrArg Url.text (endpoint_eq r key)).trans (Url.text_of_segments hhost _)
  refine ⟨fun key => ⟨endpoint_eq r key, htext key⟩, hall, fun key hkey => ?_⟩
  have hkeyed : (r.endpoint (some key)).segments =
      (r.endpoint none).segments ++ [written key.toList] := by
    rw [hsegments, hsegments, destination_of_segmentKey hkey, List.append_assoc]
    rfl
  refine ⟨written key.toList, hkeyed, ?_, Url.isPlainSegment_written _, Url.decodeText_written _⟩
  rw [hkeyed, Url.pathText_concat, hall]

/-- A place with a path that ends in a slash, a query and a fragment. -/
def nested : Settings := { baseUrl := "http://u:p@flags.test:81/a/?q#f" }

theorem endpoint_of_key_nested :
    ∃ r, nested.build ⟨0, 0⟩ = .ok r ∧
      pathText (r.endpoint none).segments = "/a/ofrep/v1/evaluate/flags" ∧
      ∃ seg, (r.endpoint (some "b/ü")).text =
          "http://u:p@flags.test:81/a/ofrep/v1/evaluate/flags/" ++ seg ++ "?q#f" ∧
        Url.decodeText seg = Text.utf8 "b/ü" := by
  have htest : (nested.build ⟨0, 0⟩).toOption.any (fun r =>
      r.base.scheme == "http" && r.base.authorityText == "//u:p@flags.test:81" &&
        pathText r.base.segments == "/a/" && Url.endText r.base.query r.base.fragment == "?q#f") =
      true := by decide +kernel
  obtain ⟨r, hbuild, hr⟩ := Settings.exists_build_of_test htest
  simp only [Bool.and_eq_true, beq_iff_eq] at hr
  obtain ⟨⟨⟨hscheme, hauthority⟩, hpath⟩, hend⟩ := hr
  have hslashes : pathText r.base.segments ≠ "//" := by
    rw [hpath]
    decide
  obtain ⟨hplace, hall, hkey⟩ := endpoint_of_key hbuild (.inl hscheme) hslashes
  obtain ⟨seg, -, htext, -, hdecoded⟩ := hkey "b/ü" (by decide)
  have hroot : Url.withoutLastSlash "/a/" ++ "/ofrep/v1/evaluate/flags" =
      "/a/ofrep/v1/evaluate/flags" := by decide
  rw [hpath, hroot] at hall htext
  refine ⟨r, hbuild, hall, seg, ?_, hdecoded⟩
  rw [(hplace _).2, htext, hscheme, hauthority, hend]
  simp [← String.append_assoc]

/-- **Which requests go to the same place**: those with the same destination, whether it is looked at as
a URL, as a text or as what the server sees.  The place of all flags is shared by the keys `.` and `..`,
and by no other one; keys that become segments as they are have places of their own. -/
theorem endpoint_eq_iff (hbuild : s.build now = .ok r)
    (hscheme : r.base.scheme = "http" ∨ r.base.scheme = "https") :
    (∀ k l : Option String,
      (r.endpoint k = r.endpoint l ↔ destination k = destination l) ∧
      ((r.endpoint k).text = (r.endpoint l).text ↔ destination k = destination l) ∧
      ∀ c d mark mark', (r.request (r.endpoint k) c mark).target =
        (r.request (r.endpoint l) d mark').target ↔ destination k = destination l) ∧
    (∀ key, r.endpoint (some key) = r.endpoint none ↔ key = "." ∨ key = "..") ∧
    ∀ key key', IsSegmentKey key → IsSegmentKey key' →
      (r.endpoint (some key) = r.endpoint (some key') ↔ key = key') := by
  obtain ⟨hhost, -, -⟩ := path_of_build hbuild hscheme
  have hsegments := segments_endpoint (kind_of_scheme hscheme)
  -- Behind the common stem the paths are those of the destinations.
  have hpath : ∀ k l, pathText (r.endpoint k).segments = pathText (r.endpoint l).segments ↔
      destination k = destination l := by
    intro k l
    rw [hsegments, hsegments, Url.pathText_append, Url.pathText_append, String.append_right_inj,
      pathText_segments_inj]
  have hurl : ∀ k l, r.endpoint k = r.endpoint l ↔ destination k = destination l := by
    intro k l
    constructor
    · intro h
      exact (hpath k l).mp (by rw [h])
    · intro h
      have hsame : (r.endpoint k).segments = (r.endpoint l).segments := by
        rw [hsegments, hsegments, h]
      rw [endpoint_eq r k, hsame, ← endpoint_eq r l]
  have htext : ∀ k l, (r.endpoint k).text = (r.endpoint l).text ↔ destination k = destination l := by
    intro k l
    rw [endpoint_eq r k, endpoint_eq r l, Url.text_eq_iff hhost]
    exact hpath k l
  have htarget : ∀ k l c d mark mark', (r.request (r.endpoint k) c mark).target =
      (r.request (r.endpoint l) d mark').target ↔ destination k = destination l := by
    intro k l c d mark mark'
    rw [endpoint_eq r k, endpoint_eq r l, target_of_segments, target_of_segments,
      Url.text_eq_iff (u := r.base.withoutUserInfo.withoutFragment) hhost]
    exact hpath k l
  refine ⟨fun k l => ⟨hurl k l, htext k l, htarget k l⟩, fun key => ?_, fun key key' hkey hkey' => ?_⟩
  · rw [hurl, ← destination_eq_all_iff]
    rfl
  · rw [hurl, destination_of_segmentKey hkey, destination_of_segmentKey hkey',
      Destination.flag.injEq, String.toList_inj]

/-- With the usual place of the server, a tab in a key does not tell it from another key. -/
theorem endpoint_eq_iff_locally :
    ∃ r, ({} : Settings).build ⟨0, 0⟩ = .ok r ∧
      r.endpoint (some "a\tb") = r.endpoint (some "ab") ∧
      r.endpoint (some ".") = r.endpoint none ∧
      r.endpoint (some "a b") ≠ r.endpoint (some "a%20b") := by
  have htest : (({} : Settings).build ⟨0, 0⟩).toOption.any (fun r => r.base.scheme == "http") =
      true := by decide +kernel
  obtain ⟨r, hbuild, hr⟩ := Settings.exists_build_of_test htest
  have hscheme : r.base.scheme = "http" := beq_iff_eq.mp hr
  obtain ⟨hsame, hall, hkeys⟩ := endpoint_eq_iff hbuild (.inl hscheme)
  refine ⟨r, hbuild, (hsame _ _).1.mpr (by decide), (hall _).mpr (.inl rfl), ?_⟩
  rw [ne_eq, hkeys _ _ (by decide) (by decide)]
  decide

/-- **Keys that share their place**: two keys share one, and a key shares the place of all flags. -/
theorem not_apart :
    (¬ ∀ (s : Settings) (now : Instant) (r : Remote), s.build now = .ok r →
      r.base.scheme = "http" ∨ r.base.scheme = "https" →
      ∀ k l, k ≠ l → r.endpoint (some k) ≠ r.endpoint (some l)) ∧
    ¬ ∀ (s : Settings) (now : Instant) (r : Remote), s.build now = .ok r →
      r.base.scheme = "http" ∨ r.base.scheme = "https" →
      ∀ k, r.endpoint (some k) ≠ r.endpoint none := by
  have htest : (({} : Settings).build ⟨0, 0⟩).toOption.any (fun r => r.base.scheme == "http" &&
      decide (r.endpoint (some "a\tb") = r.endpoint (some "ab")) &&
      decide (r.endpoint (some ".") = r.endpoint none)) = true := by decide +kernel
  obtain ⟨r, hbuild, hr⟩ := Settings.exists_build_of_test htest
  simp only [Bool.and_eq_true, beq_iff_eq, decide_eq_true_eq] at hr
  obtain ⟨⟨hscheme, hkeys⟩, hall⟩ := hr
  constructor
  · intro h
    exact h {} ⟨0, 0⟩ r hbuild (.inl hscheme) "a\tb" "ab" (by decide) hkeys
  · intro h
    exact h {} ⟨0, 0⟩ r hbuild (.inl hscheme) "." hall

end

end Remote
end RemoteFlags
