/-
This file models the pull of the log entries that are on a BMC already. The
members of a collection are gathered page by page, ordered newest first and cut
to a number; those that are left are looked at one after the other, fetched when
they are listed in part, and passed on as alerts. A member that is older than
the cursor is skipped, and so is one without a time that is known already.

A BMC may send any value for any field. An exception that reading a member
raises ends the pull of the collection; the alerts passed so far are passed.
-/

import Gyanam.Alerts
import Gyanam.Lib.Sorted
import Gyanam.Reports

namespace Gyanam

open Json (Text)
open Datetime (Reading)

/-! ### Exceptions -/

/-- What a pull raises: an operation on a value of the wrong type, or a timestamp. -/
inductive PullError where
  | poll (error : PollError)
  | timestamp (error : TimestampError)
  deriving DecidableEq, Repr

/-! ### Documents -/

/-- A decoded dictionary. -/
abbrev LogEntry := List (Text × Json)

/-- The value of a field, null where there is none. -/
def LogEntry.field (entry : LogEntry) (name : String) : Json :=
  (Json.getMember entry (Json.text name)).getD .null

/-- Whether a value contains a name: as a key, as an item, or as a part of a text. -/
def containsName (name : String) : Json → Except PullError Bool
  | .object members => .ok (Json.getMember members (Json.text name)).isSome
  | .array items => .ok (items.any fun
    | .string chars => chars = Json.text name
    | _ => false)
  | .string chars => .ok (decide (Json.text name <:+: chars))
  | _ => .error (.poll .type)

/-- The reading in UTC of a value, if it is a timestamp. -/
def readTime (value : Json) : Except PullError (Option Reading) :=
  (do toNaiveUtc (← parseRedfishTimestamp value)).mapError .timestamp

/-- The address of a reference. -/
def absUrl (baseUrl : Text) (uri : Json) : Except PullError Text :=
  if uri.truthy then
    match uri with
    | .string chars =>
      if Json.text "http://" <+: chars ∨ Json.text "https://" <+: chars then .ok chars
      else
        let slash := fun point => decide (point = Json.point '/'.toNat)
        .ok (Strings.stripEnd slash baseUrl ++ Json.text "/" ++ chars.dropWhile slash)
    | _ => .error (.poll .attribute)
  else .ok []

/-! ### Ordering members -/

/-- A key to sort members by: whether it is a time, a number or nothing, and its value. -/
structure SortKey where
  kind : Nat
  value : Double

/-- The order of keys. -/
def SortKey.lt (first second : SortKey) : Bool :=
  if first.kind = second.kind then first.value.lt second.value
  else decide (first.kind < second.kind)

/-- The seconds from the start of 1970 to an instant. -/
def timestampOf (dt : Datetime) : Double :=
  Double.ofRatio (dt.reading.micros - (dt.offset.getD .utc).micros) 1000000

/-- The key of a member: its time, else the number at the end of its reference. -/
def sortKey (member : LogEntry) : Except PullError SortKey := do
  match ← (parseRedfishTimestamp (member.field "Created")).mapError .timestamp with
  | some ts => return ⟨2, timestampOf ts⟩
  | none =>
    let oid := member.field "@odata.id"
    if oid.truthy then
      match oid with
      | .string chars =>
        match Strings.toFloat (Strings.lastSegment (Json.point '/'.toNat) chars) with
        | some value => return ⟨1, value⟩
        | none => return ⟨0, .finite 0⟩
      | _ => .error (.poll .attribute)
    else return ⟨0, .finite 0⟩

/-- The sort of the library, for members with their keys. -/
abbrev MemberSort := SortedList.ReverseSort (SortKey × LogEntry)

/-- The first members of the order from the largest key down. -/
def newestOf (sort : MemberSort) (keyed : List (SortKey × LogEntry)) (maxEntries : Nat) :
    List LogEntry :=
  ((sort.sort (fun first second => first.1.lt second.1) keyed).map Prod.snd).take maxEntries

/-- The newest members, newest first. A number at the end of a reference may be no number at all,
and then the order depends on how the library sorts. -/
def orderMembersNewestFirst (sort : MemberSort) (members : List LogEntry) (maxEntries : Nat) :
    Except PullError (List LogEntry) := do
  let keyed ← members.mapM fun member => do return (← sortKey member, member)
  return newestOf sort keyed maxEntries

/-! ### Collecting members -/

/-- How many pages are read at most. -/
def maxPages : Nat := 20

/-- The members of a page that are dictionaries and not there yet, and the ids there then. -/
def addMembers : List Json → List LogEntry → List HashKey →
    Except PullError (List LogEntry × List HashKey)
  | [], members, seen => .ok (members, seen)
  | .object member :: rest, members, seen =>
    match LogEntry.field member "@odata.id" with
    | .null => addMembers rest (members ++ [member]) seen
    | mid => do
      let key ← (hashKey mid).mapError .poll
      if key ∈ seen then addMembers rest members seen
      else addMembers rest (members ++ [member]) (seen ++ [key])
  | _ :: rest, members, seen => addMembers rest members seen

/-- Read pages until there is none left, one comes again, or there are enough members. Returns
whether pages were left. -/
def collectPages (get : Text → Option Json) (baseUrl : Text) (maxEntries : Nat) :
    Nat → Json → List LogEntry → List HashKey → List HashKey →
      Except PullError (List LogEntry × Bool)
  | 0, uri, members, _, _ => .ok (members, uri.truthy)
  | pages + 1, uri, members, seen, visited =>
    if uri.truthy then do
      let page ← (hashKey uri).mapError .poll
      if page ∈ visited then return (members, false)
      match get (← absUrl baseUrl uri) with
      | none => return (members, false)
      | some doc =>
        if doc.truthy then
          match doc with
          | .object fields =>
            let listed := (Json.getMember fields (Json.text "Members")).getD (.array [])
            let (members, seen) ← addMembers (← (entries listed).mapError .poll) members seen
            let next := LogEntry.field fields "Members@odata.nextLink"
            if maxEntries * 3 ≤ members.length then return (members, next.truthy)
            else collectPages get baseUrl maxEntries pages next members seen (visited ++ [page])
          | _ => .error (.poll .attribute)
        else return (members, false)
    else return (members, false)

/-- The members of a collection. -/
def collectMembers (get : Text → Option Json) (baseUrl : Text) (entriesUri : Json)
    (maxEntries : Nat) : Except PullError (List LogEntry × Bool) :=
  collectPages get baseUrl maxEntries maxPages entriesUri [] [] []

/-! ### Reading a member -/

/-- What a pull is told about its target and its filter. -/
structure PullSettings where
  targetId : TargetId
  targetName : Text
  targetBmc : Text
  baseUrl : Text
  severities : Option (List Text)
  maxEntries : Nat

/-- What a pull relies on: the answers of the BMC, whether a reference is stored already, the clock
at which an entry is passed on, the texts of values, case folding, and the library's sort. -/
structure PullWorld where
  get : Text → Option Json
  isKnown : Json → Bool
  clock : LogEntry → Datetime
  str : Json → Text
  casefold : Text → Text
  sort : MemberSort

/-- The severity of an entry, and whether it has one. -/
def normalizeSeverity (str : Json → Text) (entry : LogEntry) : Text × Bool :=
  let raw := if (entry.field "MessageSeverity").truthy then entry.field "MessageSeverity"
    else entry.field "Severity"
  if raw.truthy then (str raw, true) else (Json.text "OK", false)

/-- Whether a severity is let through. -/
def severityAllowed (casefold : Text → Text) (severity : Text) (present : Bool)
    (allowList : Option (List Text)) : Bool :=
  if present then
    match allowList with
    | none => true
    | some [] => true
    | some allowed => decide (casefold severity ∈ allowed.map casefold)
  else true

/-- Where an entry comes from, at its top level or under its links. -/
def extractOrigin (entry : LogEntry) : Json :=
  let origin := match entry.field "OriginOfCondition" with
    | .null =>
      match entry.field "Links" with
      | .object links => LogEntry.field links "OriginOfCondition"
      | _ => .null
    | origin => origin
  match origin with
  | .object fields => LogEntry.field fields "@odata.id"
  | .string chars => .string chars
  | _ => .null

/-- A value, or another where it is falsy. -/
def pyOr (value other : Json) : Json := if value.truthy then value else other

/-- The alert of an entry that a member stands for. -/
def alertOfEntry (settings : PullSettings) (world : PullWorld) (member entry : LogEntry)
    (eventTs : Option Reading) : AlertEvent where
  targetId := settings.targetId
  targetName := settings.targetName
  targetBmc := settings.targetBmc
  severity := (normalizeSeverity world.str entry).1
  message := pyOr (entry.field "Message") (.string [])
  messageId := entry.field "MessageId"
  eventType := pyOr (entry.field "EntryType") (.string (Json.text "Alert"))
  originOfCondition := extractOrigin entry
  eventTimestamp := eventTs.map fun reading => { reading := reading }
  receivedAt := some (world.clock entry)
  sourceId := pyOr (entry.field "@odata.id") (member.field "@odata.id")
  raw := some entry

/-- What becomes of a member: it is skipped, it is filtered out but its time counts, or it is passed
on. -/
inductive Considered where
  | skipped
  | filtered (eventTs : Option Reading)
  | passed (eventTs : Option Reading) (alert : AlertEvent)

/-- Whether a time is older than the cursor. -/
def isOlder (cursor time : Option Reading) : Bool :=
  match cursor, time with
  | some mark, some reading => decide (reading.micros < mark.micros)
  | _, _ => false

/-- Whether a member is listed with its key fields. -/
def isComplete (member : LogEntry) : Bool :=
  ["Message", "Severity", "Created"].all fun name =>
    (Json.getMember member (Json.text name)).isSome

/-- The entry that a member stands for: what is fetched when it is listed in part, if anything
is. -/
def entryOf (settings : PullSettings) (world : PullWorld) (member : LogEntry) :
    Except PullError Json := do
  let ref := member.field "@odata.id"
  if isComplete member || !ref.truthy then return .object member
  match world.get (← absUrl settings.baseUrl ref) with
  | some fetched => return pyOr fetched (.object member)
  | none => return .object member

/-- Whether an entry has any of the fields that make it worth passing on. -/
def hasContent (entry : Json) : Except PullError Bool := do
  return (← containsName "Message" entry) || (← containsName "Severity" entry) ||
    (← containsName "MessageSeverity" entry)

/-- Look at the entry that a member stands for. -/
def considerEntry (settings : PullSettings) (world : PullWorld) (cursor : Option Reading)
    (member : LogEntry) (entry : Json) : Except PullError Considered := do
  if !(← hasContent entry) then return .skipped
  match entry with
  | .object fields =>
    let eventTs ← readTime (LogEntry.field fields "Created")
    if isOlder cursor eventTs then return .skipped
    let (severity, present) := normalizeSeverity world.str fields
    if severityAllowed world.casefold severity present settings.severities then
      return .passed eventTs (alertOfEntry settings world member fields eventTs)
    else return .filtered eventTs
  | _ => .error (.poll .attribute)

/-- Whether a member is skipped for being old, or for being known where it has no time. -/
def isSkipped (world : PullWorld) (cursor memberTs : Option Reading) (member : LogEntry) : Bool :=
  let ref := member.field "@odata.id"
  isOlder cursor memberTs || (memberTs.isNone && ref.truthy && world.isKnown ref)

/-- Look at a member. -/
def considerMember (settings : PullSettings) (world : PullWorld) (cursor : Option Reading)
    (member : LogEntry) : Except PullError Considered := do
  let memberTs ← readTime (member.field "Created")
  if isSkipped world cursor memberTs member then return .skipped
  considerEntry settings world cursor member (← entryOf settings world member)

/-! ### Pulling a collection -/

/-- What a pull has passed on, and what it returns: how many alerts were taken, and the newest time
seen. -/
structure Pull where
  passed : List AlertEvent
  outcome : Except PullError (Nat × Option Reading)

/-- The newer of two times. -/
def newerOf (newest eventTs : Option Reading) : Option Reading :=
  match newest, eventTs with
  | newest, none => newest
  | none, some reading => some reading
  | some old, some reading => if old.micros < reading.micros then some reading else some old

/-- Look at members one after the other. -/
def pullMembers (settings : PullSettings) (world : PullWorld) (callback : AlertEvent → Bool)
    (cursor : Option Reading) : List LogEntry → List AlertEvent → Nat → Option Reading → Pull
  | [], passed, emitted, newest => ⟨passed, .ok (emitted, newest)⟩
  | member :: rest, passed, emitted, newest =>
    match considerMember settings world cursor member with
    | .error error => ⟨passed, .error error⟩
    | .ok .skipped => pullMembers settings world callback cursor rest passed emitted newest
    | .ok (.filtered eventTs) =>
      pullMembers settings world callback cursor rest passed emitted (newerOf newest eventTs)
    | .ok (.passed eventTs alert) =>
      pullMembers settings world callback cursor rest (passed ++ [alert])
        (if callback alert then emitted + 1 else emitted) (newerOf newest eventTs)

/-- Pull one collection. The cursor may be aware or naive. -/
def pullCollection (settings : PullSettings) (world : PullWorld) (callback : AlertEvent → Bool)
    (entriesUri : Json) (cursor : Option Datetime) : Pull :=
  match collectMembers world.get settings.baseUrl entriesUri settings.maxEntries with
  | .error error => ⟨[], .error error⟩
  | .ok (allMembers, _) =>
    if allMembers.isEmpty then ⟨[], .ok (0, none)⟩
    else
      match orderMembersNewestFirst world.sort allMembers settings.maxEntries with
      | .error error => ⟨[], .error error⟩
      | .ok members =>
        match toNaiveUtc cursor with
        | .error error => ⟨[], .error (.timestamp error)⟩
        | .ok mark => pullMembers settings world callback mark members [] 0 none

end Gyanam
