import DeviceGrant.Proofs.PlainAddress
import DeviceGrant.Proofs.Settings
set_option autoImplicit false

/-! # The derived address and the host of the request

A client without an address of its own is sent to one that is derived from the address of the
request. Deriving cuts at the last slash of the whole text. If the request has a path, this slash
belongs to the path: the scheme, the authority and all segments but the last stay, and the
verification path takes the place of the last one. Without a path it is the slash in front of the
authority, and the verification path takes the place of the authority
(`derived_stays_on_host`). -/

namespace DeviceGrant

/-! ## Cutting at slashes -/

namespace Text

variable {sep : Char} {front body : List Char}

theorem cutLast?_append (h : sep ∉ body) :
    cutLast? sep (front ++ sep :: body) = some (front, body) := by
  have hreverse : (front ++ sep :: body).reverse = body.reverse ++ sep :: front.reverse := by simp
  rw [cutLast?, hreverse, cutFirst?_append (by simpa using h)]
  simp

/-- The pieces of a text do not have the character at which it is split, and in front of each but
the first there was one. -/
theorem exists_splitOn_eq (sep : Char) (cs : List Char) :
    ∃ piece pieces, splitOn sep cs = piece :: pieces ∧ (∀ p ∈ piece :: pieces, sep ∉ p) ∧
      cs = piece ++ pieces.flatMap (sep :: ·) := by
  induction cs with
  | nil => exact ⟨[], [], rfl, by simp, rfl⟩
  | cons c cs ih =>
    obtain ⟨piece, pieces, hsplit, hnone, hcs⟩ := ih
    unfold splitOn
    by_cases hc : c = sep
    · refine ⟨[], piece :: pieces, ?_, ?_, ?_⟩
      · rw [if_pos hc, hsplit]
      · simpa using hnone
      · rw [hcs, hc]
        simp
    · refine ⟨c :: piece, pieces, ?_, ?_, ?_⟩
      · rw [if_neg hc, hsplit]
      · simpa [Ne.symm hc] using hnone
      · rw [hcs, List.cons_append]

end Text

/-! ## Addresses of requests -/

/-- The segments of a path that is empty or starts with a slash. -/
def pathSegments (path : List Char) : List (List Char) := (Text.splitOn '/' path).tail

/-- The path of segments, with a slash in front of each. -/
def joinSegments (segments : List (List Char)) : List Char := segments.flatMap ('/' :: ·)

theorem pathSegments_cons (path : List Char) :
    joinSegments (pathSegments ('/' :: path)) = '/' :: path ∧
      pathSegments ('/' :: path) ≠ [] ∧ ∀ s ∈ pathSegments ('/' :: path), '/' ∉ s := by
  obtain ⟨piece, pieces, hsplit, hnone, hpath⟩ := Text.exists_splitOn_eq '/' path
  have hsegments : pathSegments ('/' :: path) = piece :: pieces := by
    rw [pathSegments, Text.splitOn, if_pos rfl, List.tail_cons, hsplit]
  rw [hsegments]
  refine ⟨?_, List.cons_ne_nil _ _, hnone⟩
  rw [joinSegments, List.flatMap_cons, List.cons_append, ← hpath]

theorem exists_slash_cons (segments : List (List Char)) (last : List Char) :
    ∃ rest, joinSegments segments ++ '/' :: last = '/' :: rest := by
  cases segments with
  | nil => exact ⟨last, rfl⟩
  | cons s segments => exact ⟨s ++ joinSegments segments ++ '/' :: last, by simp [joinSegments]⟩

/-- The last segment of a path, and what is in front of it. -/
theorem exists_path_eq {path : List Char} (hne : path ≠ []) (hrooted : ∀ c ∈ path.head?, c = '/') :
    ∃ last, '/' ∉ last ∧ path = joinSegments (pathSegments path).dropLast ++ '/' :: last := by
  cases path with
  | nil => exact absurd rfl hne
  | cons c path =>
    obtain rfl := hrooted c rfl
    obtain ⟨hjoin, hsome, hnone⟩ := pathSegments_cons path
    have hsplit := List.dropLast_append_getLast hsome
    refine ⟨(pathSegments ('/' :: path)).getLast hsome, hnone _ (List.getLast_mem hsome), ?_⟩
    calc '/' :: path
      _ = joinSegments (pathSegments ('/' :: path)) := hjoin.symm
      _ = joinSegments ((pathSegments ('/' :: path)).dropLast ++
            [(pathSegments ('/' :: path)).getLast hsome]) := by rw [hsplit]
      _ = _ := by simp [joinSegments]

/-- The address of a request without its query: a scheme of the web, an authority, and a path that
is empty or starts with a slash. -/
structure BaseAddress where
  scheme : List Char
  authority : List Char
  path : List Char
  web : Override.isWebScheme scheme = true
  nonempty : authority ≠ []
  host : ∀ c ∈ authority, Url.endsAuthority c = false
  rooted : ∀ c ∈ path.head?, c = '/'
  unqueried : ∀ c ∈ path, c ≠ '?' ∧ c ≠ '#'

namespace BaseAddress

/-- The scheme and the authority of an address. -/
def origin (a : BaseAddress) : List Char := a.scheme ++ ':' :: '/' :: '/' :: a.authority

/-- An address as a text. -/
def text (a : BaseAddress) : String := String.ofList (a.origin ++ a.path)

/-- What becomes of an address whose last segment is replaced by a path. -/
def replaceLast (a : BaseAddress) (path : String) : List Char :=
  a.origin ++ joinSegments (pathSegments a.path).dropLast ++ '/' :: path.toList

variable {a : BaseAddress} {path : String}

theorem derivedUri_of_cut {base : String} {front last : List Char} (hlast : '/' ∉ last)
    (hbase : base.toList = front ++ '/' :: last) (path : String) :
    (Override.derivedUri base path).toList = front ++ '/' :: path.toList := by
  rw [Override.derivedUri, hbase, Text.cutLast?_append hlast]
  simp

/-- The last slash of an address with a path is one of the path. -/
theorem derivedUri_of_path (h : a.path ≠ []) (path : String) :
    (Override.derivedUri a.text path).toList = a.replaceLast path := by
  obtain ⟨last, hlast, hpath⟩ := exists_path_eq h a.rooted
  have htext : a.text.toList =
      (a.origin ++ joinSegments (pathSegments a.path).dropLast) ++ '/' :: last := by
    rw [text, String.toList_ofList, List.append_assoc, ← hpath]
  exact derivedUri_of_cut hlast htext path

/-- Without a path it is the one in front of the authority. -/
theorem derivedUri_of_no_path (h : a.path = []) (path : String) :
    (Override.derivedUri a.text path).toList = a.scheme ++ ':' :: '/' :: '/' :: path.toList := by
  have hslash : '/' ∉ a.authority := fun hmem => absurd (a.host '/' hmem) (by decide)
  have htext : a.text.toList = (a.scheme ++ [':', '/']) ++ '/' :: a.authority := by
    simp [text, h, origin]
  rw [derivedUri_of_cut hslash htext path]
  simp

/-- The authority is lost where the verification path takes its place. -/
theorem derivedUri_eq_replaceLast_iff :
    (Override.derivedUri a.text path).toList = a.replaceLast path ↔ a.path ≠ [] := by
  constructor
  · intro h hnone
    -- The two texts would differ by the authority and a slash.
    have hempty : joinSegments (pathSegments a.path).dropLast = [] := by rw [hnone]; rfl
    rw [derivedUri_of_no_path hnone, replaceLast, hempty, origin] at h
    have hlength := congrArg List.length h
    simp only [List.length_append, List.length_cons, List.length_nil] at hlength
    omega
  · intro h
    exact derivedUri_of_path h path

/-! ## What a reader of addresses finds -/

theorem scheme_eq (a : BaseAddress) :
    a.scheme = ['h', 't', 't', 'p'] ∨ a.scheme = ['h', 't', 't', 'p', 's'] := by
  simpa [Override.isWebScheme] using a.web

/-- The authority as it is read, without tabs and line ends. -/
def readAuthority (a : BaseAddress) : List Char := a.authority.filter fun c => !isLineControl c

theorem splitScheme_clean (a : BaseAddress) (rest : List Char) :
    Url.splitScheme (Url.clean (a.origin ++ rest)) =
      (a.scheme, '/' :: '/' :: (a.readAuthority ++ rest.filter fun c => !isLineControl c)) := by
  refine (Url.splitScheme_eq_iff a.web).2 ⟨a.scheme, ?_, ?_, ?_⟩
  · rcases a.scheme_eq with h | h <;> rw [h] <;> decide
  · rcases a.scheme_eq with h | h <;> rw [h] <;> decide
  · -- Nothing of a scheme is dropped in cleaning.
    rw [Url.clean_eq, origin, readAuthority]
    rcases a.scheme_eq with h | h <;> rw [h] <;> simp [isLineControl]

theorem takeWhile_readAuthority {rest : List Char} (hrest : ∀ c ∈ rest.head?, c = '/') :
    ((a.readAuthority ++ rest.filter fun c => !isLineControl c).takeWhile
      fun c => !Url.endsAuthority c) = a.readAuthority := by
  have hauthority : ∀ c ∈ a.readAuthority, (!Url.endsAuthority c) = true := by
    intro c hc
    rw [a.host c (List.mem_of_mem_filter hc)]
    rfl
  rw [List.takeWhile_append_of_pos hauthority]
  cases rest with
  | nil => simp
  | cons c rest =>
    obtain rfl := hrest c rfl
    simp [isLineControl, Url.endsAuthority]

/-- The scheme and the authority are found whatever path there is behind them. -/
theorem split_origin_append {rest : List Char} (hrest : ∀ c ∈ rest.head?, c = '/') :
    Url.split (a.origin ++ rest) =
      (Url.checkAuthority a.readAuthority).map fun _ => ⟨a.scheme, a.readAuthority⟩ := by
  rw [Url.split_of_parts (a.splitScheme_clean rest), takeWhile_readAuthority hrest]

/-- With its last segment replaced, an address is read as one of the same host. -/
theorem split_replaceLast (a : BaseAddress) (path : String) :
    Url.split (a.replaceLast path) = Url.split a.text.toList := by
  obtain ⟨rest, hrest⟩ := exists_slash_cons (pathSegments a.path).dropLast path.toList
  have hslash : ∀ c ∈ ('/' :: rest).head?, c = '/' := by simp
  rw [replaceLast, List.append_assoc, hrest, split_origin_append hslash, text,
    String.toList_ofList, split_origin_append a.rooted]

/-- Whatever the verification path is, the derived address is the one of the request with its last
segment replaced, exactly if that has a path. Then it starts with the scheme, the authority and a
slash, ends with a slash and the verification path, and is read as an address of the same host.
Otherwise the verification path stands where the authority was. -/
theorem derived_stays_on_host (a : BaseAddress) (path : String) :
    let derived := (Override.derivedUri a.text path).toList
    (derived = a.replaceLast path ↔ a.path ≠ []) ∧
    (a.path ≠ [] → a.origin ++ ['/'] <+: derived ∧ '/' :: path.toList <:+ derived ∧
      Url.split derived = Url.split a.text.toList) ∧
    (a.path = [] → derived = a.scheme ++ ':' :: '/' :: '/' :: path.toList) := by
  intro derived
  refine ⟨derivedUri_eq_replaceLast_iff, fun h => ?_, fun h => derivedUri_of_no_path h path⟩
  have hderived : derived = a.replaceLast path := derivedUri_of_path h path
  rw [hderived]
  refine ⟨?_, List.suffix_append _ _, a.split_replaceLast path⟩
  obtain ⟨rest, hrest⟩ := exists_slash_cons (pathSegments a.path).dropLast path.toList
  rw [replaceLast, List.append_assoc, hrest, List.prefix_append_right_inj]
  exact List.prefix_append _ _

/-- The address of a host alone. -/
def bareHost : BaseAddress where
  scheme := "https".toList
  authority := "auth.example.org".toList
  path := []
  web := by decide
  nonempty := by decide
  host := by simp [Url.endsAuthority]
  rooted := by simp
  unqueried := by simp

/-- With the settings as they are by default, such a request is answered with another host. -/
theorem bare_host_replaced :
    Settings.load [] [] none = .ok Settings.defaults ∧
    bareHost.text = "https://auth.example.org" ∧
    Override.derivedUri bareHost.text Settings.defaults.verificationPath = "https://user_verify" ∧
    ¬ bareHost.origin ++ ['/'] <+: "https://user_verify".toList ∧
    Url.split "https://user_verify".toList = .ok ⟨"https".toList, "user_verify".toList⟩ := by
  refine ⟨Settings.load_nothing, ?_, ?_, ?_, ?_⟩
  all_goals decide +kernel

end BaseAddress

end DeviceGrant
