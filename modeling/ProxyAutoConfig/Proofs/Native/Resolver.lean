import ProxyAutoConfig.Native.Function
import ProxyAutoConfig.Proofs.Net.Address

/-!
# What scripts learn of hosts

Four host functions tell of the addresses of a host: the first IPv4 address, all addresses in one text,
and whether there are any. All of them look at one list. Its text falls apart into the texts of the
addresses (`HostFunction.entries_addressList`), since none of these is empty or holds a semicolon.

**The law** (`HostFunction.resolved_entries`): each function can be told from the text of all addresses,
and an entry of that text has itself for its only address, in every world.
-/

namespace ProxyAutoConfig

open ProxyAutoConfig.Net ProxyAutoConfig.Text

/-! ## Texts of addresses -/

namespace Net.Address

variable (a : Address)

/-- No semicolon stands in the text of an address, -/
theorem semicolon_notMem_text : ';' ∉ a.text := by
  intro mem
  have unread := parse?_eq_none (by decide) (by decide) (by decide) mem
  rw [read_back] at unread
  cases unread

/-- and something does. -/
theorem text_ne_nil : a.text ≠ [] := by
  intro nothing
  have unread : parse? [] = none := by decide
  have read := read_back a
  rw [nothing, unread] at read
  cases read

/-- **The families are told apart by their texts.** -/
theorem isSome_parse?_text : (Ipv4.parse? a.text).isSome = a.isV4 := by
  cases a with
  | v4 bits => rw [text, Ipv4.parse?_text, isV4, Option.isSome_some]
  | v6 bits =>
    rw [text, Ipv4.parse?_eq_none (by decide) (by decide) (Ipv6.colon_mem_mixedText bits), isV4,
      Option.isSome_none]

end Net.Address

/-- **The text of an address is an address in every world**: no resolver is asked. -/
theorem World.resolve_text (w : World) (a : Address) : w.resolve (String.ofList a.text) = [a] := by
  rw [resolve, String.toList_ofList, Address.read_back]

namespace HostFunction

/-! ## Lists of addresses as texts -/

/-- What stands between the semicolons of a text; an empty text has no entry. -/
def entries (answer : String) : List String :=
  if answer.isEmpty then [] else (answer.toList.splitOn ';').map String.ofList

/-- The text is that of an IPv4 address. -/
def isIpv4Text (s : String) : Bool :=
  (Ipv4.parse? s.toList).isSome

theorem addressList_singleton (a : Address) : addressList [a] = String.ofList a.text :=
  String.intercalate_singleton

theorem toList_addressList (as : List Address) :
    (addressList as).toList = [';'].intercalate (as.map Address.text) := by
  have texts : (as.map fun a => String.ofList a.text).map String.toList = as.map Address.text := by
    rw [List.map_map]
    exact List.map_congr_left fun a _ => String.toList_ofList
  rw [addressList, String.toList_intercalate, texts]
  rfl

/-- Some addresses have some text. -/
theorem addressList_ne_empty {as : List Address} (some' : as ≠ []) : addressList as ≠ "" := by
  intro nothing
  obtain ⟨a, rest, rfl⟩ := List.exists_cons_of_ne_nil some'
  have empty : [';'].intercalate ((a :: rest).map Address.text) = [] := by
    rw [← toList_addressList, nothing, String.toList_empty]
  cases rest with
  | nil => exact a.text_ne_nil (by simpa using empty)
  | cons b rest => simp [List.intercalate_cons_cons] at empty

/-- **The text of some addresses falls apart into their texts.** -/
theorem entries_addressList (as : List Address) :
    entries (addressList as) = as.map fun a => String.ofList a.text := by
  cases as with
  | nil => rfl
  | cons a rest =>
    have given : (addressList (a :: rest)).isEmpty = false :=
      Bool.eq_false_iff.mpr (mt String.isEmpty_iff.mp (addressList_ne_empty (List.cons_ne_nil a rest)))
    have apart : ∀ part ∈ (a :: rest).map Address.text, ';' ∉ part := by
      intro part mem
      obtain ⟨b, _, rfl⟩ := List.mem_map.mp mem
      exact b.semicolon_notMem_text
    rw [entries, given, if_neg Bool.false_ne_true, toList_addressList,
      List.splitOn_intercalate ';' apart (List.cons_ne_nil _ _), List.map_map]
    rfl

/-! ## The law -/

/-- **The four functions tell one story, and their answers stand for themselves.** A host has an IPv4
address when one is given for it, and an address when the text of all of them is not empty. The IPv4
address is the first one among the entries of that text, if there is one. An entry has itself for its only
address whatever a resolver says of it, and so the IPv4 address of an IPv4 address is the address. -/
theorem resolved_entries (w : World) (host : String) :
    (isResolvable w host = true ↔ dnsResolve w host ≠ none) ∧
    (isResolvableEx w host = true ↔ dnsResolveEx w host ≠ "") ∧
    dnsResolve w host = (entries (dnsResolveEx w host)).find? isIpv4Text ∧
    (∀ entry ∈ entries (dnsResolveEx w host), ∀ later : World, dnsResolveEx later entry = entry) ∧
    ∀ address, dnsResolve w host = some address →
      ∀ later : World, dnsResolve later address = some address := by
  refine ⟨?_, ?_, ?_, fun entry mem later => ?_, fun address found later => ?_⟩
  · rw [isResolvable, dnsResolve, ne_eq, Option.map_eq_none_iff, List.find?_eq_none, List.any_eq_true]
    simp only [not_forall, not_not, exists_prop]
  · rw [isResolvableEx, dnsResolveEx, Bool.not_eq_true', List.isEmpty_eq_false_iff]
    exact ⟨addressList_ne_empty, fun given nothing => given (by rw [nothing]; rfl)⟩
  · have families : isIpv4Text ∘ (fun a : Address => String.ofList a.text) = Address.isV4 := by
      funext a
      rw [Function.comp_apply, isIpv4Text, String.toList_ofList, Address.isSome_parse?_text]
    rw [dnsResolveEx, entries_addressList, List.find?_map, families, dnsResolve]
  · rw [dnsResolveEx, entries_addressList] at mem
    obtain ⟨a, _, rfl⟩ := List.mem_map.mp mem
    rw [dnsResolveEx, World.resolve_text, addressList_singleton]
  · obtain ⟨a, first, rfl⟩ := Option.map_eq_some_iff.mp found
    rw [dnsResolve, World.resolve_text, List.find?_cons_of_pos (List.find?_some first), Option.map_some]

/-- So it is for a host with two addresses, the first of which is an IPv6 one that stands for an IPv4
one. -/
theorem resolved_entries_mapped :
    let w : World := { World.isolated 0 0 with
      names := [("h", [.v6 0xFFFF0A000001, .v4 0xC0A80001])] }
    "::ffff:10.0.0.1" ∈ entries (dnsResolveEx w "h") ∧ dnsResolve w "h" = some "192.168.0.1" ∧
      (∀ later : World, dnsResolveEx later "::ffff:10.0.0.1" = "::ffff:10.0.0.1") ∧
      ∀ later : World, dnsResolve later "192.168.0.1" = some "192.168.0.1" := by
  intro w
  have listed : "::ffff:10.0.0.1" ∈ entries (dnsResolveEx w "h") := by decide +kernel
  have found : dnsResolve w "h" = some "192.168.0.1" := by decide +kernel
  obtain ⟨_, _, _, entry, address⟩ := resolved_entries w "h"
  exact ⟨listed, found, entry _ listed, address _ found⟩

end HostFunction

end ProxyAutoConfig
