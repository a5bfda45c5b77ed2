/-
This file follows the pages of a collection. A page names the next one by a
link, so a BMC lays out a chain of pages, which may be short, endless or
cyclic. The collection reads along the chain and stops at a link that is falsy
or was read already, at a page it does not get, after enough members or after
twenty pages.

What it returns are the members that the pages it read list: those without an
id, and the first of each id. It raises at a page that is not one of members,
at a member whose id has no hash, and at a link that is not a text. A link is
never fetched twice, so whatever the BMC answers, it answers once for a link.
-/

import Gyanam.LogBaseline
import Gyanam.Lib.FirstClaim

namespace Gyanam

open Json (Text)

/-! ### Pages -/

/-- The address of a link that is a text. -/
def address (baseUrl uri : Text) : Text :=
  if uri = [] then []
  else if Json.text "http://" <+: uri ∨ Json.text "https://" <+: uri then uri
  else
    let slash := fun point => decide (point = Json.point '/'.toNat)
    Strings.stripEnd slash baseUrl ++ Json.text "/" ++ uri.dropWhile slash

theorem absUrl_string (baseUrl uri : Text) :
    absUrl baseUrl (.string uri) = .ok (address baseUrl uri) := by
  cases uri with
  | nil => rfl
  | cons first rest =>
    have truthy : (Json.string (first :: rest)).truthy = true := rfl
    rw [absUrl, if_pos truthy, address, if_neg (List.cons_ne_nil _ _)]
    dsimp only
    split <;> rfl

/-- What a page lists. -/
def listedMembers (fields : LogEntry) : Except PullError (List Json) :=
  (entries ((Json.getMember fields (Json.text "Members")).getD (.array []))).mapError .poll

/-- The link of a page to the next one. -/
def nextLink (fields : LogEntry) : Json := fields.field "Members@odata.nextLink"

/-- The dictionaries among some items. -/
def dictMembers (items : List Json) : List LogEntry :=
  items.filterMap fun
    | .object member => some member
    | _ => none

/-- The id of a member, as it is looked up. -/
def memberId (member : LogEntry) : Option HashKey :=
  match member.field "@odata.id" with
  | .null => none
  | mid => (hashKey mid).toOption

/-! ### Reading along the links -/

/-- What becomes of a link: there is nothing to read, it raises before it is fetched, there is no
page, what is there is no page, or there is one. -/
inductive Visit where
  | finished
  | raised (error : PullError)
  | unread (uri : Text)
  | misread (uri : Text) (error : PullError)
  | read (uri : Text) (fields : LogEntry)

/-- Follow a link. -/
def visit (fetch : Text → Option Json) (visited : List HashKey) (uri : Json) : Visit :=
  if uri.truthy then
    match hashKey uri with
    | .error error => .raised (.poll error)
    | .ok page =>
      if page ∈ visited then .finished
      else
        match uri with
        | .string chars =>
          match fetch chars with
          | none => .unread chars
          | some doc =>
            if doc.truthy then
              match doc with
              | .object fields => .read chars fields
              | _ => .misread chars (.poll .attribute)
            else .unread chars
        | _ => .raised (.poll .attribute)
  else .finished

/-- The links that a collection fetched, and its outcome. -/
structure Fetches where
  fetched : List Text
  outcome : Except PullError (List LogEntry × Bool)

/-- Read pages as `collectPages` does, and keep the links that are fetched. -/
def collectFetches (fetch : Text → Option Json) (maxEntries : Nat) :
    Nat → Json → List LogEntry → List HashKey → List HashKey → Fetches
  | 0, uri, members, _, _ => ⟨[], .ok (members, uri.truthy)⟩
  | pages + 1, uri, members, seen, visited =>
    match visit fetch visited uri with
    | .finished => ⟨[], .ok (members, false)⟩
    | .raised error => ⟨[], .error error⟩
    | .unread chars => ⟨[chars], .ok (members, false)⟩
    | .misread chars error => ⟨[chars], .error error⟩
    | .read chars fields =>
      match (listedMembers fields).bind fun items => addMembers items members seen with
      | .error error => ⟨[chars], .error error⟩
      | .ok (members, seen) =>
        if maxEntries * 3 ≤ members.length then
          ⟨[chars], .ok (members, (nextLink fields).truthy)⟩
        else
          let rest := collectFetches fetch maxEntries pages (nextLink fields) members seen
            (visited ++ [.text chars])
          ⟨chars :: rest.fetched, rest.outcome⟩

/-- The fetches of a collection. -/
def collectionFetches (fetch : Text → Option Json) (entriesUri : Json) (maxEntries : Nat) :
    Fetches :=
  collectFetches fetch maxEntries maxPages entriesUri [] [] []

theorem collectPages_eq (get : Text → Option Json) (baseUrl : Text) (maxEntries pages : Nat)
    (uri : Json) (members : List LogEntry) (seen visited : List HashKey) :
    collectPages get baseUrl maxEntries pages uri members seen visited =
      (collectFetches (fun uri => get (address baseUrl uri)) maxEntries pages uri members seen
        visited).outcome := by
  induction pages generalizing uri members seen visited with
  | zero => rfl
  | succ pages inductionHypothesis =>
    rw [collectPages, collectFetches]
    unfold visit
    by_cases truthy : uri.truthy = true
    · rw [if_pos truthy, if_pos truthy]
      cases hashed : hashKey uri with
      | error error => rfl
      | ok page =>
        by_cases again : page ∈ visited
        · simp only [Except.mapError, bind, Except.bind, if_pos again, pure, Except.pure]
        · simp only [Except.mapError, bind, Except.bind, if_neg again]
          cases uri with
          | string chars =>
            obtain rfl := Except.ok.inj hashed
            rw [absUrl_string]
            dsimp only
            cases get (address baseUrl chars) with
            | none => rfl
            | some doc =>
              by_cases some : doc.truthy = true
              · simp only [if_pos some]
                cases doc with
                | object fields =>
                  simp only [listedMembers, Except.mapError]
                  split
                  · rfl
                  · split
                    · next raised => rw [raised]
                    · next added =>
                      rw [added]
                      dsimp only
                      split
                      · rfl
                      · exact inductionHypothesis _ _ _ _
                | _ => rfl
              · simp only [if_neg some]
                rfl
          | _ => simp only [absUrl, if_pos truthy]
    · rw [if_neg truthy, if_neg truthy]
      rfl

/-- What a collection returns is the outcome of its fetches. -/
theorem collectMembers_eq (get : Text → Option Json) (baseUrl : Text) (entriesUri : Json)
    (maxEntries : Nat) :
    collectMembers get baseUrl entriesUri maxEntries =
      (collectionFetches (fun uri => get (address baseUrl uri)) entriesUri maxEntries).outcome :=
  collectPages_eq get baseUrl maxEntries maxPages entriesUri [] [] []

/-! ### Adding members -/

/-- The id of a member has a hash. -/
def Hashable (member : LogEntry) : Prop := ∃ key, hashKey (member.field "@odata.id") = .ok key

theorem memberId_eq_none {member : LogEntry} (absent : member.field "@odata.id" = .null) :
    memberId member = none := by
  rw [memberId, absent]

theorem memberId_of_hashed {member : LogEntry} {key : HashKey}
    (present : member.field "@odata.id" ≠ .null)
    (hashed : hashKey (member.field "@odata.id") = .ok key) : memberId member = some key := by
  rw [memberId]
  split
  · next absent => exact absurd absent present
  · rw [hashed]
    rfl

theorem dictMembers_object (member : LogEntry) (rest : List Json) :
    dictMembers (.object member :: rest) = member :: dictMembers rest := rfl

theorem known_concat {listed : List LogEntry} {seen : List HashKey} {member : LogEntry}
    (known : ∀ key, key ∈ seen ↔ key ∈ FirstClaim.keys memberId listed)
    (added : List HashKey) (own : FirstClaim.keys memberId [member] ⊆ seen ++ added)
    (others : added ⊆ FirstClaim.keys memberId [member]) (key : HashKey) :
    key ∈ seen ++ added ↔ key ∈ FirstClaim.keys memberId (listed ++ [member]) := by
  rw [FirstClaim.keys, List.filterMap_append, List.mem_append, List.mem_append,
    ← FirstClaim.keys, ← FirstClaim.keys, ← known key]
  refine ⟨Or.imp id fun new => others new, fun either => ?_⟩
  obtain old | new := either
  · exact .inl old
  · exact List.mem_append.mp (own new)

/-- What adding the members of a page to those listed before comes to: the first of each id are
there, and the ids are known; or a member has an id without a hash. -/
inductive Adds (page listed : List LogEntry) :
    Except PullError (List LogEntry × List HashKey) → Prop where
  | added (seen : List HashKey) (hashable : ∀ member ∈ page, Hashable member)
      (known : ∀ key, key ∈ seen ↔ key ∈ FirstClaim.keys memberId (listed ++ page)) :
    Adds page listed (.ok (FirstClaim.claimed memberId (listed ++ page), seen))
  | raised (error : PullError) (unhashable : ¬ ∀ member ∈ page, Hashable member) :
    Adds page listed (.error error)

/-- A member with a hash is listed before those after it. -/
theorem Adds.cons {member : LogEntry} {rest listed : List LogEntry}
    {result : Except PullError (List LogEntry × List HashKey)} (hashable : Hashable member)
    (adds : Adds rest (listed ++ [member]) result) : Adds (member :: rest) listed result := by
  cases adds with
  | added seen others known =>
    rw [List.append_assoc, List.singleton_append] at known ⊢
    exact .added seen (List.forall_mem_cons.mpr ⟨hashable, others⟩) known
  | raised error unhashable =>
    exact .raised error fun all => unhashable (List.forall_mem_cons.mp all).2

theorem addMembers_of_absent {member : LogEntry} (absent : member.field "@odata.id" = .null)
    (rest : List Json) (members : List LogEntry) (seen : List HashKey) :
    addMembers (.object member :: rest) members seen =
      addMembers rest (members ++ [member]) seen := by
  rw [addMembers, absent]

theorem addMembers_of_error {member : LogEntry} {error : PollError}
    (unhashed : hashKey (member.field "@odata.id") = .error error) (rest : List Json)
    (members : List LogEntry) (seen : List HashKey) :
    addMembers (.object member :: rest) members seen = .error (.poll error) := by
  have present : member.field "@odata.id" ≠ .null := by
    intro absent
    rw [absent] at unhashed
    cases unhashed
  simp only [addMembers, unhashed]
  rfl

theorem addMembers_of_hashed {member : LogEntry} {key : HashKey}
    (present : member.field "@odata.id" ≠ .null)
    (hashed : hashKey (member.field "@odata.id") = .ok key) (rest : List Json)
    (members : List LogEntry) (seen : List HashKey) :
    addMembers (.object member :: rest) members seen =
      if key ∈ seen then addMembers rest members seen
      else addMembers rest (members ++ [member]) (seen ++ [key]) := by
  simp only [addMembers, hashed]
  rfl

/-- A member without an id is listed, and its page goes on. -/
theorem claimed_concat_of_absent {member : LogEntry} (absent : member.field "@odata.id" = .null)
    (listed : List LogEntry) : FirstClaim.claimed memberId (listed ++ [member]) =
      FirstClaim.claimed memberId listed ++ [member] :=
  FirstClaim.claimed_concat_of_fresh fun _ found => by
    rw [memberId_eq_none absent] at found
    cases found

theorem addMembers_adds (items : List Json) {listed : List LogEntry} {seen : List HashKey}
    (known : ∀ key, key ∈ seen ↔ key ∈ FirstClaim.keys memberId listed) :
    Adds (dictMembers items) listed
      (addMembers items (FirstClaim.claimed memberId listed) seen) := by
  induction items generalizing listed seen with
  | nil =>
    have adds : Adds [] listed (.ok (FirstClaim.claimed memberId (listed ++ []), seen)) :=
      .added seen (fun _ member => absurd member List.not_mem_nil) (by rwa [List.append_nil])
    rwa [List.append_nil] at adds
  | cons item rest inductionHypothesis =>
    cases item with
    | object member =>
      rw [dictMembers_object]
      by_cases absent : LogEntry.field member "@odata.id" = .null
      · have own : FirstClaim.keys memberId [member] = [] := by
          rw [FirstClaim.keys, List.filterMap_cons, memberId_eq_none absent, List.filterMap_nil]
        rw [addMembers_of_absent absent, ← claimed_concat_of_absent absent]
        refine Adds.cons ⟨HashKey.null, by rw [absent]; rfl⟩ (inductionHypothesis fun key => ?_)
        rw [← List.append_nil seen]
        refine known_concat known [] ?_ (List.nil_subset _) key
        rw [own]
        exact List.nil_subset _
      · cases hashed : hashKey (LogEntry.field member "@odata.id") with
        | error error =>
          rw [addMembers_of_error hashed]
          refine .raised _ fun all => ?_
          obtain ⟨key, same⟩ := all member List.mem_cons_self
          rw [hashed] at same
          cases same
        | ok key =>
          have keyed := memberId_of_hashed absent hashed
          have own : FirstClaim.keys memberId [member] = [key] := by
            rw [FirstClaim.keys, List.filterMap_cons, keyed, List.filterMap_nil]
          rw [addMembers_of_hashed absent hashed]
          refine Adds.cons ⟨key, hashed⟩ ?_
          split
          · next old =>
            rw [← FirstClaim.claimed_concat_of_taken keyed ((known key).mp old),
              ← List.append_nil seen]
            refine inductionHypothesis (known_concat known [] ?_ (List.nil_subset _))
            rw [own, List.append_nil]
            exact List.cons_subset.mpr ⟨old, List.nil_subset _⟩
          · next new =>
            rw [← FirstClaim.claimed_concat_of_fresh fun other found => ?_]
            · refine inductionHypothesis (known_concat known [key] ?_ ?_)
              · rw [own]
                exact List.subset_append_right _ _
              · rw [own]
                exact List.Subset.refl _
            · rw [← Option.some.inj (keyed.symm.trans found), ← known key]
              exact new
    | _ => exact inductionHypothesis known

/-! ### The chain of pages -/

/-- The page of a link: its fields, none where there is no page. -/
def pageOf (fetch : Text → Option Json) (link : Json) : LogEntry :=
  match link with
  | .string (first :: rest) =>
    match fetch (first :: rest) with
    | some (.object fields) => fields
    | _ => []
  | _ => []

/-- The links of the chain, from the first one on. -/
def linkAt (fetch : Text → Option Json) (entriesUri : Json) : Nat → Json
  | 0 => entriesUri
  | index + 1 => nextLink (pageOf fetch (linkAt fetch entriesUri index))

/-- The dictionaries that a page lists. -/
def membersOf (fields : LogEntry) : List LogEntry :=
  match listedMembers fields with
  | .ok items => dictMembers items
  | .error _ => []

/-- The dictionaries that the first pages of the chain list. -/
def listedBefore (fetch : Text → Option Json) (entriesUri : Json) (count : Nat) : List LogEntry :=
  (List.range count).flatMap fun index => membersOf (pageOf fetch (linkAt fetch entriesUri index))

/-- A page is one of members: it lists items, and the ids of the dictionaries among them have a
hash. -/
structure Listing (fields : LogEntry) : Prop where
  listed : ∃ items, listedMembers fields = .ok items
  hashable : ∀ member ∈ membersOf fields, Hashable member

/-- A link can be read: it is falsy, or a text at which there is a page of members or nothing. -/
def LinkReadable (fetch : Text → Option Json) (link : Json) : Prop :=
  link.truthy = true → ∃ uri, link = .string uri ∧
    ∀ doc, fetch uri = some doc → doc.truthy = true →
      ∃ fields, doc = .object fields ∧ Listing fields

/-- The chain is followed to one of its links: it is among the first ones, none of them comes again,
and the pages before list too few members to stop. -/
structure Reached (fetch : Text → Option Json) (entriesUri : Json) (maxEntries index : Nat) :
    Prop where
  within : index < maxPages
  new : ∀ earlier later, earlier < later → later ≤ index →
    linkAt fetch entriesUri earlier ≠ linkAt fetch entriesUri later
  few : ∀ count, 0 < count → count ≤ index →
    (FirstClaim.claimed memberId (listedBefore fetch entriesUri count)).length < maxEntries * 3

/-! ### Following the chain -/

section Chain

variable {fetch : Text → Option Json} {entriesUri : Json} {maxEntries : Nat}

/-- What becomes of a link after some others were read. -/
inductive Follows (fetch : Text → Option Json) (texts : List Text) (link : Json) :
    Visit → Prop where
  | finished (ended : link.truthy = false ∨ ∃ uri ∈ texts, link = .string uri) :
    Follows fetch texts link .finished
  | raised (error : PullError) (truthy : link.truthy = true) (noText : ∀ uri, link ≠ .string uri) :
    Follows fetch texts link (.raised error)
  | unread (uri : Text) (truthy : link.truthy = true) (isText : link = .string uri)
      (new : uri ∉ texts) (nothing : ∀ doc, fetch uri = some doc → doc.truthy = false) :
    Follows fetch texts link (.unread uri)
  | misread (uri : Text) (error : PullError) (doc : Json) (truthy : link.truthy = true)
      (isText : link = .string uri) (new : uri ∉ texts) (found : fetch uri = some doc)
      (document : doc.truthy = true) (noPage : ∀ fields, doc ≠ .object fields) :
    Follows fetch texts link (.misread uri error)
  | read (uri : Text) (fields : LogEntry) (truthy : link.truthy = true)
      (isText : link = .string uri) (new : uri ∉ texts)
      (found : fetch uri = some (.object fields)) (document : (Json.object fields).truthy = true) :
    Follows fetch texts link (.read uri fields)

/-- Only a text is looked up as a text. -/
theorem eq_string_of_hashKey {link : Json} {uri : Text} (hashed : hashKey link = .ok (.text uri)) :
    link = .string uri := by
  unfold hashKey at hashed
  split at hashed
  all_goals cases hashed
  rfl

/-- A link that is not a text raises. -/
theorem visit_of_noText (fetch : Text → Option Json) (texts : List Text) {link : Json}
    (truthy : link.truthy = true) (noText : ∀ uri, link ≠ .string uri) :
    ∃ error, visit fetch (texts.map HashKey.text) link = .raised error := by
  unfold visit
  rw [if_pos truthy]
  cases hashed : hashKey link with
  | error error => exact ⟨_, rfl⟩
  | ok page =>
    have new : page ∉ texts.map HashKey.text := by
      intro member
      obtain ⟨uri, -, rfl⟩ := List.mem_map.mp member
      exact noText uri (eq_string_of_hashKey hashed)
    dsimp only
    rw [if_neg new]
    cases link with
    | string uri => exact absurd rfl (noText uri)
    | _ => exact ⟨_, rfl⟩

theorem visit_follows (fetch : Text → Option Json) (texts : List Text) (link : Json) :
    Follows fetch texts link (visit fetch (texts.map HashKey.text) link) := by
  by_cases truthy : link.truthy = true
  · cases link with
    | string chars =>
      unfold visit
      rw [if_pos truthy]
      have hashed : hashKey (.string chars) = .ok (.text chars) := rfl
      have listed : HashKey.text chars ∈ texts.map HashKey.text ↔ chars ∈ texts :=
        List.mem_map_of_injective fun _ _ same => HashKey.text.inj same
      simp only [hashed, listed]
      split
      · next again => exact .finished (.inr ⟨chars, again, rfl⟩)
      · next new =>
        cases found : fetch chars with
        | none =>
          refine .unread chars truthy rfl new fun doc same => ?_
          rw [found] at same
          cases same
        | some doc =>
          dsimp only
          by_cases document : doc.truthy = true
          · rw [if_pos document]
            cases doc with
            | object fields => exact .read chars fields truthy rfl new found document
            | _ =>
              refine .misread chars _ _ truthy rfl new found document fun _ same => ?_
              cases same
          · rw [if_neg document]
            refine .unread chars truthy rfl new fun other same => ?_
            rw [← Option.some.inj (found.symm.trans same)]
            exact Bool.eq_false_iff.mpr document
    | _ =>
      obtain ⟨error, raised⟩ := visit_of_noText fetch texts truthy fun uri same => by cases same
      rw [raised]
      exact .raised error truthy fun uri same => by cases same
  · unfold visit
    rw [if_neg truthy]
    exact .finished (.inl (Bool.eq_false_iff.mpr truthy))

theorem pageOf_of_found {link : Json} {uri : Text} {fields : LogEntry}
    (truthy : link.truthy = true) (isText : link = .string uri)
    (found : fetch uri = some (.object fields)) : pageOf fetch link = fields := by
  subst isText
  cases uri with
  | nil => cases truthy
  | cons first rest => simp only [pageOf, found]

theorem membersOf_of_listed {fields : LogEntry} {items : List Json}
    (listed : listedMembers fields = .ok items) : membersOf fields = dictMembers items := by
  rw [membersOf, listed]

theorem listedBefore_succ (count : Nat) :
    listedBefore fetch entriesUri (count + 1) = listedBefore fetch entriesUri count ++
      membersOf (pageOf fetch (linkAt fetch entriesUri count)) := by
  rw [listedBefore, List.range_succ, List.flatMap_append, List.flatMap_singleton, listedBefore]

/-- The first links of the chain are texts that were read, no two alike, and the loop went on after
each but the last. -/
structure Walked (fetch : Text → Option Json) (entriesUri : Json) (maxEntries : Nat)
    (texts : List Text) : Prop where
  within : texts.length ≤ maxPages
  nodup : texts.Nodup
  read : ∀ index uri, texts[index]? = some uri →
    linkAt fetch entriesUri index = .string uri ∧ (Json.string uri).truthy = true ∧
      ∃ fields, fetch uri = some (.object fields) ∧ Listing fields
  few : ∀ count, 0 < count → count < texts.length →
    (FirstClaim.claimed memberId (listedBefore fetch entriesUri count)).length < maxEntries * 3

/-- The loop goes on after the links that were read. -/
def GoesOn (fetch : Text → Option Json) (entriesUri : Json) (maxEntries count : Nat) : Prop :=
  count < maxPages ∧ (0 < count →
    (FirstClaim.claimed memberId (listedBefore fetch entriesUri count)).length < maxEntries * 3)

/-- How the loop ends after the links that were read: the links that are fetched then, and the
outcome. -/
inductive Ends (fetch : Text → Option Json) (entriesUri : Json) (maxEntries : Nat)
    (texts : List Text) : List Text → Except PullError (List LogEntry × Bool) → Prop where
  | finished (ended : (linkAt fetch entriesUri texts.length).truthy = false ∨
      ∃ uri ∈ texts, linkAt fetch entriesUri texts.length = .string uri) :
    Ends fetch entriesUri maxEntries texts []
      (.ok (FirstClaim.claimed memberId (listedBefore fetch entriesUri texts.length), false))
  | enough (stops : ¬ GoesOn fetch entriesUri maxEntries texts.length) :
    Ends fetch entriesUri maxEntries texts []
      (.ok (FirstClaim.claimed memberId (listedBefore fetch entriesUri texts.length),
        (linkAt fetch entriesUri texts.length).truthy))
  | unread (uri : Text) (truthy : (linkAt fetch entriesUri texts.length).truthy = true)
      (isText : linkAt fetch entriesUri texts.length = .string uri)
      (new : uri ∉ texts) (goesOn : GoesOn fetch entriesUri maxEntries texts.length)
      (nothing : ∀ doc, fetch uri = some doc → doc.truthy = false) :
    Ends fetch entriesUri maxEntries texts [uri]
      (.ok (FirstClaim.claimed memberId (listedBefore fetch entriesUri texts.length), false))
  | raised (fetched : List Text) (error : PullError)
      (last : ∀ uri, uri ∈ fetched ↔ linkAt fetch entriesUri texts.length = .string uri)
      (single : fetched.length ≤ 1)
      (new : ∀ uri ∈ texts, linkAt fetch entriesUri texts.length ≠ .string uri)
      (goesOn : GoesOn fetch entriesUri maxEntries texts.length)
      (unreadable : ¬ LinkReadable fetch (linkAt fetch entriesUri texts.length)) :
    Ends fetch entriesUri maxEntries texts fetched (.error error)

/-- One more link is read. -/
theorem Walked.read_next {texts : List Text} (walked : Walked fetch entriesUri maxEntries texts)
    (goesOn : GoesOn fetch entriesUri maxEntries texts.length) {uri : Text} {fields : LogEntry}
    (truthy : (linkAt fetch entriesUri texts.length).truthy = true)
    (isText : linkAt fetch entriesUri texts.length = .string uri) (new : uri ∉ texts)
    (found : fetch uri = some (.object fields)) (listing : Listing fields) :
    Walked fetch entriesUri maxEntries (texts ++ [uri]) where
  within := by
    rw [List.length_append, List.length_singleton]
    exact goesOn.1
  nodup := List.nodup_append'.mpr ⟨walked.nodup, List.nodup_singleton uri,
    List.disjoint_singleton.mpr new⟩
  read index other here := by
    obtain before | ⟨rfl, same⟩ :
        texts[index]? = some other ∨ index = texts.length ∧ other = uri := by
      by_cases earlier : index < texts.length
      · rw [List.getElem?_append_left earlier] at here
        exact .inl here
      · rw [List.getElem?_append_right (by omega), List.getElem?_singleton] at here
        split at here
        · next zero => exact .inr ⟨by omega, (Option.some.inj here).symm⟩
        · cases here
    · exact walked.read index other before
    · rw [same]
      rw [isText] at truthy
      exact ⟨isText, truthy, fields, found, listing⟩
  few count positive earlier := by
    rw [List.length_append, List.length_singleton] at earlier
    by_cases last : count = texts.length
    · rw [last]
      exact goesOn.2 (last ▸ positive)
    · exact walked.few count positive (by omega)

/-- A link to a text that was not read is none of the links that were. -/
theorem ne_of_new {link : Json} {uri : Text} {texts : List Text} (isText : link = .string uri)
    (new : uri ∉ texts) : ∀ other ∈ texts, link ≠ .string other :=
  fun _ member same => new (Json.string.inj (isText.symm.trans same) ▸ member)

/-- A link cannot be read when what is there is no page of members. -/
theorem not_linkReadable {link doc : Json} {uri : Text} (truthy : link.truthy = true)
    (isText : link = .string uri) (found : fetch uri = some doc) (document : doc.truthy = true)
    (noPage : ∀ fields, doc = .object fields → ¬ Listing fields) : ¬ LinkReadable fetch link := by
  intro readable
  obtain ⟨other, same, pages⟩ := readable truthy
  obtain rfl := Json.string.inj (isText.symm.trans same)
  obtain ⟨fields, isPage, listing⟩ := pages doc found document
  exact noPage fields isPage listing

/-- The loop may end with an error at a link that is fetched and cannot be read. -/
theorem Ends.of_unreadable {texts : List Text} {uri : Text}
    (isText : linkAt fetch entriesUri texts.length = .string uri) (new : uri ∉ texts)
    (goesOn : GoesOn fetch entriesUri maxEntries texts.length)
    (unreadable : ¬ LinkReadable fetch (linkAt fetch entriesUri texts.length))
    (error : PullError) : Ends fetch entriesUri maxEntries texts [uri] (.error error) :=
  .raised [uri] error (fun other => by rw [List.mem_singleton, isText, Json.string.injEq, eq_comm])
    (Nat.le_refl 1) (ne_of_new isText new) goesOn unreadable

/-- What the loop fetches after some links that were read, and its outcome: it reads more links, and
then it ends. -/
def EndsFrom (fetch : Text → Option Json) (entriesUri : Json) (maxEntries : Nat)
    (texts : List Text) (fetches : Fetches) : Prop :=
  ∃ last extra, Walked fetch entriesUri maxEntries last ∧
    texts ++ fetches.fetched = last ++ extra ∧
      Ends fetch entriesUri maxEntries last extra fetches.outcome

theorem EndsFrom.here {texts extra : List Text} {outcome : Except PullError (List LogEntry × Bool)}
    (walked : Walked fetch entriesUri maxEntries texts)
    (ends : Ends fetch entriesUri maxEntries texts extra outcome) :
    EndsFrom fetch entriesUri maxEntries texts ⟨extra, outcome⟩ :=
  ⟨texts, extra, walked, rfl, ends⟩

theorem EndsFrom.cons {texts : List Text} {uri : Text} {fetches : Fetches}
    (endsFrom : EndsFrom fetch entriesUri maxEntries (texts ++ [uri]) fetches) :
    EndsFrom fetch entriesUri maxEntries texts ⟨uri :: fetches.fetched, fetches.outcome⟩ := by
  obtain ⟨last, extra, walked, fetched, ends⟩ := endsFrom
  refine ⟨last, extra, walked, ?_, ends⟩
  rw [← fetched, List.append_assoc, List.singleton_append]

/-- From some links that were read the loop comes to its end. -/
theorem collectFetches_ends (pages : Nat) {texts : List Text} {seen : List HashKey}
    (walked : Walked fetch entriesUri maxEntries texts)
    (budget : texts.length + pages = maxPages)
    (few : 0 < texts.length → (FirstClaim.claimed memberId
      (listedBefore fetch entriesUri texts.length)).length < maxEntries * 3)
    (known : ∀ key, key ∈ seen ↔
      key ∈ FirstClaim.keys memberId (listedBefore fetch entriesUri texts.length)) :
    EndsFrom fetch entriesUri maxEntries texts
      (collectFetches fetch maxEntries pages (linkAt fetch entriesUri texts.length)
        (FirstClaim.claimed memberId (listedBefore fetch entriesUri texts.length)) seen
        (texts.map HashKey.text)) := by
  induction pages generalizing texts seen with
  | zero => exact .here walked (.enough fun goesOn => by have within := goesOn.1; omega)
  | succ pages inductionHypothesis =>
    have goesOn : GoesOn fetch entriesUri maxEntries texts.length := ⟨by omega, few⟩
    have follows := visit_follows fetch texts (linkAt fetch entriesUri texts.length)
    rw [collectFetches]
    generalize visit fetch (texts.map HashKey.text) (linkAt fetch entriesUri texts.length) =
      visited at follows
    cases follows with
    | finished ended => exact .here walked (.finished ended)
    | raised error truthy noText =>
      refine .here walked (.raised [] error (fun uri => iff_of_false List.not_mem_nil (noText uri))
        (Nat.zero_le 1) (fun uri _ => noText uri) goesOn fun readable => ?_)
      obtain ⟨uri, isText, -⟩ := readable truthy
      exact noText uri isText
    | unread uri truthy isText new nothing =>
      exact .here walked (.unread uri truthy isText new goesOn nothing)
    | misread uri error doc truthy isText new found document noPage =>
      exact .here walked (.of_unreadable isText new goesOn (not_linkReadable truthy isText found
        document fun fields isPage => absurd isPage (noPage fields)) error)
    | read uri fields truthy isText new found document =>
      have unlisted (noListing : ¬ Listing fields) (error : PullError) :
          EndsFrom fetch entriesUri maxEntries texts ⟨[uri], .error error⟩ :=
        .here walked (.of_unreadable isText new goesOn (not_linkReadable truthy isText found
          document fun _ isPage => Json.object.inj isPage ▸ noListing) error)
      dsimp only
      cases listed : listedMembers fields with
      | error error =>
        refine unlisted (fun listing => ?_) error
        obtain ⟨items, same⟩ := listing.listed
        rw [listed] at same
        cases same
      | ok items =>
        have members := membersOf_of_listed listed
        have adds := addMembers_adds items known
        simp only [Except.bind]
        generalize addMembers items (FirstClaim.claimed memberId
          (listedBefore fetch entriesUri texts.length)) seen = added at adds
        cases adds with
        | raised error unhashable =>
          exact unlisted (fun listing => unhashable (members ▸ listing.hashable)) error
        | added seen' hashable known' =>
          have next := walked.read_next goesOn truthy isText new found
            ⟨⟨items, listed⟩, members ▸ hashable⟩
          have length : (texts ++ [uri]).length = texts.length + 1 := List.length_append
          have page := pageOf_of_found truthy isText found
          have listedNext : listedBefore fetch entriesUri (texts ++ [uri]).length =
              listedBefore fetch entriesUri texts.length ++ dictMembers items := by
            rw [length, listedBefore_succ, page, members]
          have linkNext : linkAt fetch entriesUri (texts ++ [uri]).length = nextLink fields := by
            rw [length, linkAt, page]
          dsimp only
          rw [← listedNext, ← linkNext]
          by_cases full : maxEntries * 3 ≤ (FirstClaim.claimed memberId
              (listedBefore fetch entriesUri (texts ++ [uri]).length)).length
          · rw [if_pos full]
            refine EndsFrom.cons (.here next (.enough fun goesOn => ?_))
            exact absurd (goesOn.2 (by omega)) (by omega)
          · rw [if_neg full]
            rw [← listedNext] at known'
            have ends := inductionHypothesis next (by omega) (fun _ => by omega) known'
            rw [List.map_append, List.map_singleton] at ends
            exact ends.cons

theorem Walked.reached {texts : List Text} (walked : Walked fetch entriesUri maxEntries texts)
    {index : Nat} (read : index < texts.length) : Reached fetch entriesUri maxEntries index where
  within := read.trans_le walked.within
  new earlier later before upTo same := by
    have first := (walked.read earlier _ (List.getElem?_eq_getElem (by omega))).1
    have second := (walked.read later _ (List.getElem?_eq_getElem (by omega))).1
    have alike := Json.string.inj (first.symm.trans (same.trans second))
    exact absurd (walked.nodup.getElem_inj_iff.mp alike) (by omega)
  few count positive upTo := walked.few count positive (by omega)

/-- When the loop goes on to a link that was not read, the chain is followed to it. -/
theorem Walked.reached_next {texts : List Text} (walked : Walked fetch entriesUri maxEntries texts)
    (goesOn : GoesOn fetch entriesUri maxEntries texts.length)
    (new : ∀ uri ∈ texts, linkAt fetch entriesUri texts.length ≠ .string uri) :
    Reached fetch entriesUri maxEntries texts.length where
  within := goesOn.1
  new earlier later before upTo same := by
    obtain inside | rfl := Nat.lt_or_eq_of_le upTo
    · exact (walked.reached inside).new earlier later before le_rfl same
    · have first := (walked.read earlier _ (List.getElem?_eq_getElem before)).1
      exact new _ (List.getElem_mem before) (same.symm.trans first)
  few count positive upTo := by
    obtain inside | rfl := Nat.lt_or_eq_of_le upTo
    · exact walked.few count positive inside
    · exact goesOn.2 positive

/-- Behind a link without a page there is no page. -/
theorem linkAt_past {count : Nat} (nothing : pageOf fetch (linkAt fetch entriesUri count) = [])
    {index : Nat} (past : count < index) : linkAt fetch entriesUri index = .null := by
  induction index, past using Nat.le_induction with
  | base => rw [linkAt, nothing]; rfl
  | succ index _ inductionHypothesis => rw [linkAt, inductionHypothesis]; rfl

theorem pageOf_of_falsy {link : Json} (falsy : link.truthy = false) : pageOf fetch link = [] := by
  cases link with
  | string uri =>
    cases uri with
    | nil => rfl
    | cons first rest => cases falsy
  | _ => rfl

theorem pageOf_of_nothing {uri : Text}
    (nothing : ∀ doc, fetch uri = some doc → doc.truthy = false) :
    pageOf fetch (.string uri) = [] := by
  cases uri with
  | nil => rfl
  | cons first rest =>
    rw [pageOf]
    split
    · next fields found =>
      have empty := nothing _ found
      cases fields with
      | nil => rfl
      | cons field others => cases empty
    · rfl

/-- When a link comes again, the chain goes round. -/
theorem linkAt_round {first count : Nat} (before : first < count)
    (same : linkAt fetch entriesUri count = linkAt fetch entriesUri first) (index : Nat) :
    ∃ earlier < count, linkAt fetch entriesUri index = linkAt fetch entriesUri earlier := by
  induction index with
  | zero => exact ⟨0, by omega, rfl⟩
  | succ index inductionHypothesis =>
    obtain ⟨earlier, inside, alike⟩ := inductionHypothesis
    have next : linkAt fetch entriesUri (index + 1) = linkAt fetch entriesUri (earlier + 1) := by
      rw [linkAt, linkAt, alike]
    by_cases last : earlier + 1 = count
    · exact ⟨first, before, by rw [next, last, same]⟩
    · exact ⟨earlier + 1, by omega, next⟩

/-- At the end of the loop a link that was read comes again, or there is nothing behind it, or it
stops before the chain ends, or it raises. -/
theorem Ends.past {texts extra : List Text}
    {outcome : Except PullError (List LogEntry × Bool)}
    (ends : Ends fetch entriesUri maxEntries texts extra outcome) {index : Nat}
    (past : texts.length < index) (walked : Walked fetch entriesUri maxEntries texts)
    (reached : Reached fetch entriesUri maxEntries index) :
    linkAt fetch entriesUri index = .null ∨
      ¬ LinkReadable fetch (linkAt fetch entriesUri texts.length) := by
  cases ends with
  | finished ended =>
    obtain falsy | ⟨uri, member, again⟩ := ended
    · exact .inl (linkAt_past (pageOf_of_falsy falsy) past)
    · obtain ⟨first, inside, rfl⟩ := List.getElem_of_mem member
      have read := (walked.read first _ (List.getElem?_eq_getElem inside)).1
      exact absurd (read.trans again.symm) (reached.new first texts.length inside past.le)
  | enough stops =>
    exact absurd ⟨past.trans reached.within, fun positive => reached.few _ positive past.le⟩ stops
  | unread uri truthy isText new goesOn nothing =>
    refine .inl (linkAt_past ?_ past)
    rw [isText]
    exact pageOf_of_nothing nothing
  | raised fetched error last single new goesOn unreadable => exact .inr unreadable

/-! ### Faithful collections -/

/-- What the caller relies on. Few links are fetched, none twice. Members are returned, the first of
each id of those that the fetched pages list, in their order. And unless pages were left or a fetch
failed, every member of every page of the chain is returned, or another one of its id. -/
structure Faithful (fetch : Text → Option Json) (entriesUri : Json) (result : Fetches) : Prop where
  bounded : result.fetched.length ≤ maxPages
  once : result.fetched.Nodup
  returns : ∃ members truncated, result.outcome = .ok (members, truncated) ∧
    members = FirstClaim.claimed memberId
      (result.fetched.flatMap fun uri => membersOf (pageOf fetch (.string uri))) ∧
    (FirstClaim.keys memberId members).Nodup ∧
    (truncated = false → (∀ uri ∈ result.fetched, (fetch uri).isSome) →
      ∀ index, ∀ member ∈ membersOf (pageOf fetch (linkAt fetch entriesUri index)),
        member ∈ members ∨
          ∃ key, memberId member = some key ∧ ∃ kept ∈ members, memberId kept = some key)

theorem Walked.listedBefore_eq {texts : List Text}
    (walked : Walked fetch entriesUri maxEntries texts) :
    listedBefore fetch entriesUri texts.length =
      texts.flatMap fun uri => membersOf (pageOf fetch (.string uri)) := by
  have links : (List.range texts.length).map (linkAt fetch entriesUri) =
      texts.map Json.string := by
    refine List.ext_getElem (by rw [List.length_map, List.length_map, List.length_range])
      fun index first second => ?_
    rw [List.getElem_map, List.getElem_map, List.getElem_range]
    exact (walked.read index _ (List.getElem?_eq_getElem (by rwa [List.length_map] at second))).1
  have mapped := congrArg (List.flatMap fun link => membersOf (pageOf fetch link)) links
  rwa [List.flatMap_map, List.flatMap_map] at mapped

/-- The links fetched are few, and none is fetched twice. -/
theorem Ends.fetched {texts extra : List Text}
    {outcome : Except PullError (List LogEntry × Bool)}
    (ends : Ends fetch entriesUri maxEntries texts extra outcome)
    (walked : Walked fetch entriesUri maxEntries texts) :
    (texts ++ extra).length ≤ maxPages ∧ (texts ++ extra).Nodup := by
  rw [List.length_append]
  cases ends with
  | finished ended => exact ⟨walked.within, by rw [List.append_nil]; exact walked.nodup⟩
  | enough stops => exact ⟨walked.within, by rw [List.append_nil]; exact walked.nodup⟩
  | unread uri truthy isText new goesOn nothing =>
    exact ⟨goesOn.1, List.nodup_append'.mpr ⟨walked.nodup, List.nodup_singleton uri,
      List.disjoint_singleton.mpr new⟩⟩
  | raised fetched error last single new goesOn unreadable =>
    have within := goesOn.1
    refine ⟨by omega, List.nodup_append'.mpr ⟨walked.nodup, ?_, fun uri member fetchedHere => ?_⟩⟩
    · obtain empty | ⟨uri, rfl⟩ := Nat.le_one_iff_eq_zero_or_eq_one.mp single |>.imp
        List.eq_nil_of_length_eq_zero List.length_eq_one_iff.mp
      · exact empty ▸ List.nodup_nil
      · exact List.nodup_singleton uri
    · exact new uri member ((last uri).mp fetchedHere)

/-- A loop that ends without raising and leaves no pages has listed the whole chain. -/
theorem Ends.covers {texts extra : List Text} {members : List LogEntry}
    (ends : Ends fetch entriesUri maxEntries texts extra (.ok (members, false)))
    (walked : Walked fetch entriesUri maxEntries texts) (index : Nat) :
    membersOf (pageOf fetch (linkAt fetch entriesUri index)) ⊆
      listedBefore fetch entriesUri texts.length := by
  have inside : ∀ earlier < texts.length,
      membersOf (pageOf fetch (linkAt fetch entriesUri earlier)) ⊆
        listedBefore fetch entriesUri texts.length :=
    fun earlier before member listed =>
      List.mem_flatMap.mpr ⟨earlier, List.mem_range.mpr before, listed⟩
  have nothingBehind : pageOf fetch (linkAt fetch entriesUri texts.length) = [] →
      membersOf (pageOf fetch (linkAt fetch entriesUri index)) ⊆
        listedBefore fetch entriesUri texts.length := by
    intro nothing
    obtain before | rfl | past := Nat.lt_trichotomy index texts.length
    · exact inside index before
    · rw [nothing]
      exact List.nil_subset _
    · rw [linkAt_past nothing past]
      exact List.nil_subset _
  generalize outcomeIs : Except.ok (members, false) = outcome at ends
  cases ends with
  | finished ended =>
    obtain falsy | ⟨uri, member, again⟩ := ended
    · exact nothingBehind (pageOf_of_falsy falsy)
    · obtain ⟨first, before, rfl⟩ := List.getElem_of_mem member
      have read := (walked.read first _ (List.getElem?_eq_getElem before)).1
      obtain ⟨earlier, listed, same⟩ := linkAt_round before (again.trans read.symm) index
      rw [same]
      exact inside earlier listed
  | enough stops =>
    exact nothingBehind (pageOf_of_falsy (Prod.mk.inj (Except.ok.inj outcomeIs)).2.symm)
  | unread uri truthy isText new goesOn nothing =>
    refine nothingBehind ?_
    rw [isText]
    exact pageOf_of_nothing nothing
  | raised fetched error last single new goesOn unreadable => cases outcomeIs

/-- The loop of a collection comes to its end. -/
theorem collectionFetches_ends (fetch : Text → Option Json) (entriesUri : Json)
    (maxEntries : Nat) :
    ∃ last extra, Walked fetch entriesUri maxEntries last ∧
      (collectionFetches fetch entriesUri maxEntries).fetched = last ++ extra ∧
      Ends fetch entriesUri maxEntries last extra
        (collectionFetches fetch entriesUri maxEntries).outcome := by
  have start : Walked fetch entriesUri maxEntries [] :=
    ⟨Nat.zero_le _, List.nodup_nil, fun _ _ here => (by cases here),
      fun _ _ before => (by cases before)⟩
  exact collectFetches_ends maxPages start (Nat.zero_add _) (fun positive => by cases positive)
    fun key => Iff.rfl

/-- What a loop returns that does not raise. -/
theorem Ends.returned {texts extra : List Text} {members : List LogEntry} {truncated : Bool}
    (ends : Ends fetch entriesUri maxEntries texts extra (.ok (members, truncated))) :
    members = FirstClaim.claimed memberId (listedBefore fetch entriesUri texts.length) ∧
      extra.flatMap (fun uri => membersOf (pageOf fetch (.string uri))) = [] := by
  generalize outcomeIs : Except.ok (members, truncated) = outcome at ends
  cases ends with
  | finished ended => exact ⟨(Prod.mk.inj (Except.ok.inj outcomeIs)).1, rfl⟩
  | enough stops => exact ⟨(Prod.mk.inj (Except.ok.inj outcomeIs)).1, rfl⟩
  | unread uri truthy isText new goesOn nothing =>
    refine ⟨(Prod.mk.inj (Except.ok.inj outcomeIs)).1, ?_⟩
    rw [List.flatMap_singleton, pageOf_of_nothing nothing]
    rfl
  | raised fetched error last single new goesOn unreadable => cases outcomeIs

/-- A loop that does not raise makes a faithful collection. -/
theorem Ends.faithful {texts extra : List Text} {result : Fetches} {members : List LogEntry}
    {truncated : Bool} (walked : Walked fetch entriesUri maxEntries texts)
    (fetched : result.fetched = texts ++ extra)
    (ends : Ends fetch entriesUri maxEntries texts extra (.ok (members, truncated)))
    (outcome : result.outcome = .ok (members, truncated)) :
    Faithful fetch entriesUri result := by
  obtain ⟨few, nodup⟩ := ends.fetched walked
  obtain ⟨same, nothing⟩ := ends.returned
  refine ⟨by rwa [fetched], by rwa [fetched], members, truncated, outcome, ?_, ?_,
    fun complete _ index member listed => ?_⟩
  · rw [fetched, List.flatMap_append, nothing, List.append_nil, same, walked.listedBefore_eq]
  · rw [same]
    exact FirstClaim.claimed_nodup _
  · subst complete
    rw [same]
    exact FirstClaim.mem_claimed (ends.covers walked index listed)

theorem Reached.mono {index earlier : Nat} (reached : Reached fetch entriesUri maxEntries index)
    (before : earlier ≤ index) : Reached fetch entriesUri maxEntries earlier where
  within := before.trans_lt reached.within
  new first second less upTo := reached.new first second less (upTo.trans before)
  few count positive upTo := reached.few count positive (upTo.trans before)

theorem Walked.readable {texts : List Text} (walked : Walked fetch entriesUri maxEntries texts)
    {index : Nat} (read : index < texts.length) :
    LinkReadable fetch (linkAt fetch entriesUri index) := by
  obtain ⟨isText, -, fields, found, listing⟩ :=
    walked.read index _ (List.getElem?_eq_getElem read)
  refine fun _ => ⟨_, isText, fun doc same _ => ⟨fields, ?_, listing⟩⟩
  exact Option.some.inj (same.symm.trans found)

/-- A falsy link can be read. -/
theorem linkReadable_of_falsy {link : Json} (falsy : link.truthy = false) :
    LinkReadable fetch link := by
  intro truthy
  rw [falsy] at truthy
  cases truthy

/-- When a loop does not raise, the links that the chain is followed to can be read. -/
theorem Ends.readable {texts extra : List Text} {members : List LogEntry} {truncated : Bool}
    (walked : Walked fetch entriesUri maxEntries texts)
    (ends : Ends fetch entriesUri maxEntries texts extra (.ok (members, truncated))) {index : Nat}
    (reached : Reached fetch entriesUri maxEntries index) :
    LinkReadable fetch (linkAt fetch entriesUri index) := by
  have atEnd : Reached fetch entriesUri maxEntries texts.length →
      LinkReadable fetch (linkAt fetch entriesUri texts.length) := by
    intro reachedEnd
    generalize outcomeIs : Except.ok (members, truncated) = outcome at ends
    cases ends with
    | finished ended =>
      obtain falsy | ⟨uri, member, again⟩ := ended
      · exact linkReadable_of_falsy falsy
      · obtain ⟨first, inside, rfl⟩ := List.getElem_of_mem member
        have read := (walked.read first _ (List.getElem?_eq_getElem inside)).1
        exact absurd (read.trans again.symm) (reachedEnd.new first _ inside le_rfl)
    | enough stops =>
      exact absurd ⟨reachedEnd.within, fun positive => reachedEnd.few _ positive le_rfl⟩ stops
    | unread uri truthy isText new goesOn nothing =>
      refine fun _ => ⟨uri, isText, fun doc found document => ?_⟩
      rw [nothing doc found] at document
      cases document
    | raised fetched error last single new goesOn unreadable => cases outcomeIs
  obtain before | rfl | past := Nat.lt_trichotomy index texts.length
  · exact walked.readable before
  · exact atEnd reached
  · obtain nothing | unreadable := ends.past past walked reached
    · exact linkReadable_of_falsy (by rw [nothing]; rfl)
    · exact absurd (atEnd (reached.mono past.le)) unreadable

/-- A link of the chain is fetched: the chain is followed to it over links that can be read. -/
structure FetchedAt (fetch : Text → Option Json) (entriesUri : Json) (maxEntries index : Nat)
    (uri : Text) : Prop where
  reached : Reached fetch entriesUri maxEntries index
  readable : ∀ earlier < index, LinkReadable fetch (linkAt fetch entriesUri earlier)
  truthy : (linkAt fetch entriesUri index).truthy = true
  isText : linkAt fetch entriesUri index = .string uri

theorem Ends.single {texts extra : List Text} {outcome : Except PullError (List LogEntry × Bool)}
    (ends : Ends fetch entriesUri maxEntries texts extra outcome) : extra.length ≤ 1 := by
  cases ends with
  | finished ended => exact Nat.zero_le 1
  | enough stops => exact Nat.zero_le 1
  | unread uri truthy isText new goesOn nothing => exact Nat.le_refl 1
  | raised fetched error last single new goesOn unreadable => exact single

theorem getElem?_zero_eq_some_iff {items : List Text} (single : items.length ≤ 1) (item : Text) :
    items[0]? = some item ↔ item ∈ items := by
  cases items with
  | nil => simp
  | cons first rest =>
    have alone : rest = [] :=
      List.eq_nil_of_length_eq_zero (by rw [List.length_cons] at single; omega)
    rw [alone, List.getElem?_cons_zero, Option.some.injEq, List.mem_singleton, eq_comm]

/-- The link after those that were read is fetched when the loop goes on to it. -/
theorem Ends.mem_extra_iff {texts extra : List Text}
    {outcome : Except PullError (List LogEntry × Bool)}
    (ends : Ends fetch entriesUri maxEntries texts extra outcome)
    (walked : Walked fetch entriesUri maxEntries texts) (uri : Text) :
    uri ∈ extra ↔ FetchedAt fetch entriesUri maxEntries texts.length uri := by
  have readable : ∀ earlier < texts.length,
      LinkReadable fetch (linkAt fetch entriesUri earlier) := fun _ before => walked.readable before
  cases ends with
  | finished ended =>
    refine iff_of_false List.not_mem_nil fun fetchedAt => ?_
    obtain falsy | ⟨other, member, again⟩ := ended
    · rw [fetchedAt.truthy] at falsy
      cases falsy
    · obtain ⟨first, inside, rfl⟩ := List.getElem_of_mem member
      have read := (walked.read first _ (List.getElem?_eq_getElem inside)).1
      exact fetchedAt.reached.new first _ inside le_rfl (read.trans again.symm)
  | enough stops =>
    refine iff_of_false List.not_mem_nil fun fetchedAt => stops ⟨fetchedAt.reached.within, ?_⟩
    exact fun positive => fetchedAt.reached.few _ positive le_rfl
  | unread other truthy isText new goesOn nothing =>
    rw [List.mem_singleton]
    constructor
    · rintro rfl
      refine ⟨walked.reached_next goesOn fun text member same => ?_, readable, truthy, isText⟩
      exact new (Json.string.inj (isText.symm.trans same) ▸ member)
    · intro fetchedAt
      exact Json.string.inj (fetchedAt.isText.symm.trans isText)
  | raised fetched error last single new goesOn unreadable =>
    rw [last]
    constructor
    · intro isText
      refine ⟨walked.reached_next goesOn new, readable, ?_, isText⟩
      exact Bool.not_eq_false _ |>.mp (mt linkReadable_of_falsy unreadable)
    · exact FetchedAt.isText

/-- The links that a collection fetches, in order. -/
theorem getElem?_fetched (fetch : Text → Option Json) (entriesUri : Json) (maxEntries index : Nat)
    (uri : Text) :
    (collectionFetches fetch entriesUri maxEntries).fetched[index]? = some uri ↔
      FetchedAt fetch entriesUri maxEntries index uri := by
  obtain ⟨texts, extra, walked, fetched, ends⟩ :=
    collectionFetches_ends fetch entriesUri maxEntries
  rw [fetched]
  obtain before | rfl | past := Nat.lt_trichotomy index texts.length
  · rw [List.getElem?_append_left before]
    constructor
    · intro here
      obtain ⟨isText, truthy, -⟩ := walked.read index uri here
      exact ⟨walked.reached before, fun earlier less => walked.readable (less.trans before),
        by rw [isText]; exact truthy, isText⟩
    · intro fetchedAt
      have read := (walked.read index _ (List.getElem?_eq_getElem before)).1
      rw [List.getElem?_eq_getElem before, Json.string.inj (read.symm.trans fetchedAt.isText)]
  · rw [List.getElem?_append_right le_rfl, Nat.sub_self,
      getElem?_zero_eq_some_iff ends.single, ends.mem_extra_iff walked]
  · have single := ends.single
    rw [List.getElem?_eq_none (by rw [List.length_append]; omega)]
    refine iff_of_false (by simp) fun fetchedAt => ?_
    obtain nothing | unreadable := ends.past past walked fetchedAt.reached
    · rw [fetchedAt.isText] at nothing
      cases nothing
    · exact unreadable (fetchedAt.readable _ past)

end Chain

/-- The images of the items of a list differ exactly when those at different places do. -/
theorem nodup_map_iff {Item Image : Type} (image : Item → Image) (items : List Item) :
    (items.map image).Nodup ↔ ∀ (earlier later : Nat) (first second : Item),
      items[earlier]? = some first → items[later]? = some second → image first = image second →
        earlier = later := by
  rw [List.nodup_iff_injective_getElem]
  constructor
  · intro injective earlier later first second here there same
    obtain ⟨inside, rfl⟩ := List.getElem?_eq_some_iff.mp here
    obtain ⟨within, rfl⟩ := List.getElem?_eq_some_iff.mp there
    rw [← List.length_map image] at inside within
    have places : (⟨earlier, inside⟩ : Fin _) = ⟨later, within⟩ := injective (by simpa using same)
    exact Fin.mk.inj places
  · intro distinct first second same
    exact Fin.ext (distinct first second _ _ (List.getElem?_eq_getElem _)
      (List.getElem?_eq_getElem _) (by simpa using same))

/-- Whatever a BMC answers, a collection fetches at most twenty links, and none twice. It is
faithful exactly when every link that the chain is followed to can be read. And no address is asked
twice exactly when the links that are fetched have addresses of their own. -/
theorem collection_faithful_iff (fetch : Text → Option Json) (entriesUri : Json)
    (maxEntries : Nat) :
    ((collectionFetches fetch entriesUri maxEntries).fetched.length ≤ maxPages ∧
      (collectionFetches fetch entriesUri maxEntries).fetched.Nodup) ∧
    (Faithful fetch entriesUri (collectionFetches fetch entriesUri maxEntries) ↔
      ∀ index, Reached fetch entriesUri maxEntries index →
        LinkReadable fetch (linkAt fetch entriesUri index)) ∧
    ∀ baseUrl,
      ((collectionFetches fetch entriesUri maxEntries).fetched.map (address baseUrl)).Nodup ↔
        ∀ earlier later first second, FetchedAt fetch entriesUri maxEntries earlier first →
          FetchedAt fetch entriesUri maxEntries later second →
          address baseUrl first = address baseUrl second → earlier = later := by
  obtain ⟨texts, extra, walked, fetched, ends⟩ :=
    collectionFetches_ends fetch entriesUri maxEntries
  refine ⟨fetched ▸ ends.fetched walked, ⟨fun faithful index reached => ?_, fun readable => ?_⟩,
    fun baseUrl => ?_⟩
  · obtain ⟨members, truncated, outcome, -⟩ := faithful.returns
    exact (outcome ▸ ends).readable walked reached
  · cases outcome : (collectionFetches fetch entriesUri maxEntries).outcome with
    | ok returned => exact Ends.faithful walked fetched (outcome ▸ ends) outcome
    | error error =>
      rw [outcome] at ends
      cases ends with
      | raised _ _ last single new goesOn unreadable =>
        exact absurd (readable _ (walked.reached_next goesOn new)) unreadable
  · simp only [nodup_map_iff, getElem?_fetched]

/-- A page whose one member has a list for its id. -/
def unhashableId : Text → Option Json := fun _ =>
  some (.object [(Json.text "Members", .array [.object [(Json.text "@odata.id", .array [])]])])

/-- Reading that page raises, so nothing is returned. -/
theorem unhashableId_not_faithful :
    (collectionFetches unhashableId (.string (Json.text "/entries")) 200).outcome =
        .error (.poll .type) ∧
      ¬ Faithful unhashableId (.string (Json.text "/entries"))
        (collectionFetches unhashableId (.string (Json.text "/entries")) 200) := by
  have raises : (collectionFetches unhashableId (.string (Json.text "/entries")) 200).outcome =
      .error (.poll .type) := by
    rfl
  refine ⟨raises, fun faithful => ?_⟩
  obtain ⟨members, truncated, outcome, -⟩ := faithful.returns
  rw [raises] at outcome
  cases outcome

end Gyanam
