import GatewayOperator.Proofs.Management.Endpoint
import GatewayOperator.Proofs.Url.Parser

/-!
# Requests below the collection

The segments that are appended to the collection stay below it, at most one for each text, and nothing but the
path of the base changes. There are two exceptions. A text that is made of two dots once the characters that do not
count are gone takes the name of the collection away, unless another segment stands before it. And slashes at the
end of the base are cut off wherever they stand, so a query or a fragment that ends in one is not kept.
-/

set_option autoImplicit false

namespace GatewayOperator.Management.Endpoint

open Url

/-! ## Slashes at the end of the base -/

/-- The base is the same without slashes at its end, or it ends in some. -/
theorem trimSlashes_cases (base : String) :
    (base.toList.getLast? ≠ some '/' ∧ trimSlashes base = base) ∨
      (base.toList.getLast? = some '/' ∧
        ∃ n, base.toList = (trimSlashes base).toList ++ '/' :: List.replicate n '/') := by
  have hsplit : base.toList = (trimSlashes base).toList ++ (base.toList.reverse.takeWhile (· = '/')).reverse := by
    rw [trimSlashes, String.toList_ofList, ← List.reverse_append, List.takeWhile_append_dropWhile,
      List.reverse_reverse]
  rw [← List.head?_reverse]
  by_cases hlast : base.toList.reverse.head? = some '/'
  · refine .inr ⟨hlast, ?_⟩
    obtain ⟨rest, hrest⟩ := List.head?_eq_some_iff.mp hlast
    rw [hrest, List.takeWhile_cons_of_pos (by decide)] at hsplit
    have hslashes : rest.takeWhile (· = '/') = List.replicate (rest.takeWhile (· = '/')).length '/' :=
      List.eq_replicate_of_mem fun c hc => of_decide_eq_true (List.all_eq_true.mp List.all_takeWhile c hc)
    rw [hslashes, ← List.replicate_succ, List.reverse_replicate, List.replicate_succ] at hsplit
    exact ⟨_, hsplit⟩
  · refine .inl ⟨hlast, ?_⟩
    have hnone : base.toList.reverse.takeWhile (· = '/') = [] := by
      cases hback : base.toList.reverse with
      | nil => rfl
      | cons c rest =>
        rw [hback] at hlast
        exact List.takeWhile_cons_of_neg fun hc => hlast (congrArg some (of_decide_eq_true hc))
    rw [hnone, List.reverse_nil, List.append_nil] at hsplit
    exact (String.toList_injective hsplit).symm

/-- A base is read as it stands but for its path exactly if it does not end in a slash or has neither a query nor
a fragment. -/
theorem read_trimSlashes_iff {base : String} {u v : Url} (hu : Url.read (trimSlashes base) = .ok u)
    (hv : Url.read base = .ok v) :
    u = { v with path := u.path } ↔ base.toList.getLast? ≠ some '/' ∨ (v.query = none ∧ v.fragment = none) := by
  rcases trimSlashes_cases base with ⟨hlast, hsame⟩ | ⟨hlast, n, hslashes⟩
  · rw [hsame] at hu
    obtain rfl := Except.ok.inj (hu.symm.trans hv)
    exact iff_of_true rfl (.inl hlast)
  · rw [read_slashes_iff hslashes hu hv, hlast]
    exact ⟨.inr, fun h => h.resolve_left fun hne => hne rfl⟩

/-! ## Segments below the collection -/

/-- Whether the path of a URL is the one of the collection with at most so many segments behind it, in none of
which a delimiter stands. -/
def Below (collection url : Url) (most : Nat) : Prop :=
  ∃ parts, pathChars url.path = pathChars collection.path ++ pathChars parts ∧ parts.length ≤ most ∧
    ∀ part ∈ parts, IsClosed part

/-- Segments stay below the collection exactly if they do not climb. -/
theorem below_iff {front : List (List Char)} (hfront : front ≠ []) (u : Url) (segments : List String) :
    Below { u with path := front ++ ["apis".toList] }
        (Url.extend { u with path := front ++ ["apis".toList] } segments) segments.length ↔
      climbs segments = false := by
  have hname : "apis".toList ≠ [] := by decide
  unfold Below
  rw [path_extend]
  constructor
  · rintro ⟨parts, hparts, -, -⟩
    rw [← Bool.not_eq_true]
    intro hclimbs
    obtain ⟨others, hothers⟩ := foldl_of_climbs hfront hname hclimbs
    rw [hothers, pathChars_append, pathChars_append, List.append_assoc] at hparts
    -- behind the front there is a slash and nothing or another slash, but not the name
    have htail := List.append_cancel_left hparts
    cases others with
    | nil => cases (List.cons.inj htail).2
    | cons other others => cases (List.cons.inj (List.cons.inj htail).2).1
  · intro hclimbs
    obtain ⟨parts, hparts, hlength, hclosed⟩ := foldl_of_not_climbs hname hclimbs
    exact ⟨parts, by rw [hparts, pathChars_append], hlength, hclosed⟩

/-! ## Requests -/

/-- What requests of a client are to keep of the base: all but the path when segments are appended, which stay
below the collection, and all but the query when a record is looked up, where one pair follows those of the
base. -/
structure Keeps (base collection : Url) (segments : List String) (crossId : String) : Prop where
  same : collection.extend segments = { base with path := (collection.extend segments).path }
  below : Below collection (collection.extend segments) segments.length
  asks : ∃ query, lookup collection crossId = { collection with query := some query } ∧
    pairs query = pairs (base.query.getD []) ++ [("crossId", crossId)]

/-- Requests keep to the base exactly if their segments do not climb and the base does not lose a slash of its
query or of its fragment. Whatever the base is, segments that do not climb stay below the collection, and a lookup
has one pair more than the collection. -/
theorem keeps_base_iff {base organization environment : String} {c : Url}
    (hc : collection base organization environment = .ok c) (segments : List String) (crossId : String) :
    ((∃ v, Url.read base = .ok v ∧ Keeps v c segments crossId) ↔
      climbs segments = false ∧
        ∃ v, Url.read base = .ok v ∧
          (base.toList.getLast? ≠ some '/' ∨ (v.query = none ∧ v.fragment = none))) ∧
      (Below c (c.extend segments) segments.length ↔ climbs segments = false) ∧
      ∃ query, lookup c crossId = { c with query := some query } ∧
        pairs query = pairs (c.query.getD []) ++ [("crossId", crossId)] := by
  obtain ⟨u, hread, rfl⟩ := exists_base hc
  have hbelow := below_iff (front_ne_nil u.dropEmptyEnd organization environment) u segments
  have hpairs := pairs_appendPairTo u.query "crossId" crossId
  refine ⟨?_, hbelow, _, rfl, hpairs⟩
  constructor
  · rintro ⟨v, hv, hkeeps⟩
    have hsame : u = { v with path := u.path } := congrArg (fun w : Url => { w with path := u.path }) hkeeps.same
    exact ⟨hbelow.mp hkeeps.below, v, hv, (read_trimSlashes_iff hread hv).mp hsame⟩
  · rintro ⟨hclimbs, v, hv, hbase⟩
    have hsame := (read_trimSlashes_iff hread hv).mpr hbase
    have hquery : u.query = v.query := by rw [hsame]
    have hpath (path : List (List Char)) : { u with path := path } = { v with path := path } := by rw [hsame]
    refine ⟨v, hv, hpath _, hbelow.mpr hclimbs, _, rfl, ?_⟩
    rw [← hquery]
    exact hpairs

/-- Slashes in an id stay in its segment, and delimiters of a query in the cross ID. -/
theorem delimiters_kept :
    ∃ c, collection "https://apim.example.com" "DEFAULT" "DEFAULT" = .ok c ∧
      ∃ v, Url.read "https://apim.example.com" = .ok v ∧ Keeps v c ["../a", "import"] "shop&id=1" := by
  have hread : Url.read "https://apim.example.com" = .ok { installation with path := [[]] } := by decide +kernel
  obtain ⟨hkept, -, -⟩ := keeps_base_iff collection_installation ["../a", "import"] "shop&id=1"
  exact ⟨installation, collection_installation, hkept.mpr ⟨by decide, _, hread, .inl (by decide)⟩⟩

/-- Two dots with a tab behind them take the name of the collection away. -/
theorem tabbed_dots_climb :
    ∃ c, collection "https://apim.example.com" "DEFAULT" "DEFAULT" = .ok c ∧
      (c.extend ["..\t"]).text =
        "https://apim.example.com/management/organizations/DEFAULT/environments/DEFAULT/" ∧
      ¬ Below c (c.extend ["..\t"]) 1 := by
  refine ⟨installation, collection_installation, by decide +kernel, ?_⟩
  rintro ⟨parts, hparts, -, -⟩
  have hprefix : pathChars installation.path <+: pathChars (installation.extend ["..\t"]).path := ⟨_, hparts.symm⟩
  exact absurd hprefix (by decide)

end GatewayOperator.Management.Endpoint
