import CandyRuntime.CloudSync.Declaration
import CandyRuntime.NetdProto.CodecTheorems
import CandyRuntime.NetdProto.PrefixTheorems
import CandyRuntime.NetdV1.JournalableTheorems
import Mathlib.Algebra.Group.Action.Defs
import Mathlib.Algebra.Order.BigOperators.Group.List

/-!
# What the synchronizer publishes and what the agent takes

The synchronizer, the agent and the netd protocol check the same declaration, each with limits of its
own. On a report whose prefixes netd could take, the order and the kinds of the entries are always
right, and the file and the request are never too long. The declaration is accepted exactly if the
report is within the narrower limits of the protocol as well (`declaration_accepted_iff`).
-/

namespace CandyRuntime.CloudSync.Declaration

open Lib NetdProto

variable {text : List Char} {address : UInt32} {α : Type}

/-! ## Entries as text -/

/-- A prefix as text. -/
def prefixText (p : Ipv4Prefix) : String :=
  String.ofList (addressText p.network ++ '/' :: octetText p.prefixLen.toNat)

/-- The names of the kinds of routes. -/
def routeName : RouteKind → String
  | .localSite => "local"
  | .remote => "remote"
  | .remoteEgress => "remote-egress"
  | .remoteEgressGateway => "remote-egress-gateway"

/-- The names of the kinds of exclusions. -/
def underlayName : UnderlayKind → String
  | .cloudApi => "cloud-api"
  | .hubEndpoint => "hub-endpoint"
  | .management => "management"

def routeEntry (r : RouteDeclaration) : Entry := ⟨prefixText r.ipv4Prefix, routeName r.kind⟩

def exclusionEntry (e : UnderlayExclusion) : Entry := ⟨prefixText e.ipv4Prefix, underlayName e.kind⟩

/-- The prefix of one host. -/
def hostPrefix (address : UInt32) : Ipv4Prefix := ⟨address, 32⟩

theorem hostText_eq (address : UInt32) : hostText address = prefixText (hostPrefix address) := by
  have hlength : "/32".toList = '/' :: octetText (32 : UInt8).toNat := by decide
  unfold hostText prefixText hostPrefix
  rw [hlength]

theorem hostPrefix_canonical (address : UInt32) : (hostPrefix address).Canonical := by
  have hlength : ¬ (32 : UInt8) < 32 := by decide
  have hmask : ~~~ prefixMask 32 = 0 := by decide
  unfold Ipv4Prefix.Canonical Ipv4Prefix.new hostPrefix
  simp only [hmask, if_neg hlength]
  simp

theorem splitOnce_prefixText (p : Ipv4Prefix) :
    splitOnce '/' (prefixText p).toList
      = some (addressText p.network, octetText p.prefixLen.toNat) := by
  unfold prefixText
  rw [String.toList_ofList]
  exact splitOnce_append (not_mem_addressText (by decide) (by decide)) _

/-- Without its errors the reader is the one of the library, for the octets of the agent. -/
theorem parseIpv4_eq_ok {value : String} : parseIpv4 value = .ok address
    ↔ parseAddressWith (fun part => (parseAgentOctet part).toOption) value.toList
      = some address := by
  unfold parseIpv4 parseAddressWith
  -- four parts, or an error on both sides
  rcases value.toList.splitOn '.' with _ | ⟨a, _ | ⟨b, _ | ⟨c, _ | ⟨d, _ | ⟨e, rest⟩⟩⟩⟩⟩
  case cons.cons.cons.cons.nil =>
    dsimp only
    cases parseAgentOctet a <;> cases parseAgentOctet b <;> cases parseAgentOctet c <;>
      cases parseAgentOctet d <;>
      simp [Except.toOption, Bind.bind, Except.bind, Pure.pure, Except.pure]
  all_goals simp

/-- The agent takes the octets that the synchronizer takes. -/
theorem parseAgentOctet_of_parseOctet {part : List Char} {n : ℕ} (h : parseOctet part = some n) :
    parseAgentOctet part = .ok n := by
  obtain ⟨hvalue, hne, hzero⟩ := parseU8_of_parseOctet h
  unfold parseAgentOctet
  rw [if_neg, hvalue]
  · rfl
  · rintro (hempty | hleading)
    · exact hne hempty
    · exact hzero hleading

/-- The agent reads back what stands for a canonical prefix. -/
theorem parsePrefix_prefixText {p : Ipv4Prefix} (hp : p.Canonical) :
    parsePrefix (prefixText p) = .ok p := by
  have hlength := (octetText_spec _ p.prefixLen.toNat_lt).2.1
  have haddress : parseIpv4 (String.ofList (addressText p.network)) = .ok p.network := by
    rw [parseIpv4_eq_ok, String.toList_ofList]
    refine parseAddressWith_addressText (fun n hn => ?_) _
    rw [parseAgentOctet_of_parseOctet (octetText_spec n hn).1]
    rfl
  unfold parsePrefix
  rw [splitOnce_prefixText]
  simp only [orFail, Bind.bind, Except.bind, hlength, haddress, UInt8.ofNat_toNat]
  rw [hp]
  rfl

/-- The synchronizer sorts by the order of the protocol. -/
theorem netdPrefixSortKey_prefixText (p : Ipv4Prefix) :
    netdPrefixSortKey (prefixText p) = p.rank := by
  have hlength := (octetText_spec _ p.prefixLen.toNat_lt).2.1
  unfold netdPrefixSortKey
  simp only [splitOnce_prefixText, parseAddress_addressText, hlength]
  rfl

theorem prefixText_injective {p q : Ipv4Prefix} (h : prefixText p = prefixText q) : p = q := by
  apply Ipv4Prefix.rank_injective
  rw [← netdPrefixSortKey_prefixText, ← netdPrefixSortKey_prefixText, h]

theorem parseRoute_routeEntry {r : RouteDeclaration} (hr : r.ipv4Prefix.Canonical) :
    parseRoute (routeEntry r) = .ok r := by
  have hkind : routeKind (routeName r.kind) = .ok r.kind := by
    cases r.kind with
    | localSite => decide
    | remote => decide
    | remoteEgress => decide
    | remoteEgressGateway => decide
  unfold parseRoute routeEntry
  simp only [parsePrefix_prefixText hr, hkind, Bind.bind, Except.bind, Pure.pure, Except.pure]

theorem parseExclusion_exclusionEntry {e : UnderlayExclusion} (he : e.ipv4Prefix.Canonical) :
    parseExclusion (exclusionEntry e) = .ok e := by
  have hkind : underlayKind (underlayName e.kind) = .ok e.kind := by
    cases e.kind with
    | cloudApi => decide
    | hubEndpoint => decide
    | management => decide
  unfold parseExclusion exclusionEntry
  simp only [parsePrefix_prefixText he, hkind, Bind.bind, Except.bind, Pure.pure, Except.pure]

/-- A list is read entry by entry. -/
theorem mapM_entries {parse : Entry → Except String α} {entry : α → Entry} (values : List α)
    (h : ∀ a ∈ values, parse (entry a) = .ok a) :
    (values.map entry).mapM parse = .ok values := by
  induction values with
  | nil => rfl
  | cons a values ih =>
    have hrest := ih fun b hb => h b (List.mem_cons_of_mem a hb)
    simp only [List.map_cons, List.mapM_cons, h a List.mem_cons_self, hrest, Bind.bind,
      Except.bind, Pure.pure, Except.pure]

/-! ## The order of the entries -/

theorem entryLe_total (a b : Entry) : a.le b ∨ b.le a := by
  unfold Entry.le
  rcases Nat.lt_trichotomy (netdPrefixSortKey a.ipv4Prefix) (netdPrefixSortKey b.ipv4Prefix)
    with hlt | heq | hgt
  · exact .inl (.inl hlt)
  · rcases String.le_total a.kind b.kind with hle | hle
    · exact .inl (.inr ⟨heq, hle⟩)
    · exact .inr (.inr ⟨heq.symm, hle⟩)
  · exact .inr (.inl hgt)

theorem entryLe_trans {a b c : Entry} (hab : a.le b) (hbc : b.le c) : a.le c := by
  unfold Entry.le at *
  rcases hab with hab | ⟨hab, hkind⟩
  · rcases hbc with hbc | ⟨hbc, _⟩
    · exact .inl (hab.trans hbc)
    · exact .inl (by omega)
  · rcases hbc with hbc | ⟨hbc, hkind'⟩
    · exact .inl (by omega)
    · exact .inr ⟨hab.trans hbc, String.le_trans hkind hkind'⟩

instance : Std.Total Entry.le := ⟨entryLe_total⟩

instance : IsTrans Entry Entry.le := ⟨fun _ _ _ => entryLe_trans⟩

/-- The names of kinds are in the order of their codes. -/
theorem routeName_le {a b : RouteKind} (h : routeName a ≤ routeName b) : a.code ≤ b.code := by
  revert h
  cases a <;> cases b <;> decide

theorem underlayName_le {a b : UnderlayKind} (h : underlayName a ≤ underlayName b) :
    a.code ≤ b.code := by
  revert h
  cases a <;> cases b <;> decide

/-- Entries that are sorted as text are sorted for the protocol, if no two of them have the same
prefix and kind. -/
theorem strictlySorted_of_entries {entry : α → Entry} {ipv4Prefix : α → Ipv4Prefix} {code : α → ℕ}
    {values : List α} (hentry : ∀ a, (entry a).ipv4Prefix = prefixText (ipv4Prefix a))
    (hcode : ∀ a b, (entry a).kind ≤ (entry b).kind → code a ≤ code b) (hbound : ∀ a, code a < 8)
    (hsorted : values.Pairwise (fun a b => (entry a).le (entry b)))
    (hdistinct : values.Pairwise (fun a b => ipv4Prefix a ≠ ipv4Prefix b ∨ code a ≠ code b)) :
    strictlySortedBy (fun a => (ipv4Prefix a).rank * 8 + code a) values = true := by
  rw [NetdV1.strictlySortedBy_iff_pairwise]
  refine List.Pairwise.imp (fun {a b} h => ?_) (hsorted.and hdistinct)
  obtain ⟨hle, hne⟩ := h
  have ha := hbound a
  have hb := hbound b
  unfold Entry.le at hle
  rw [hentry, hentry, netdPrefixSortKey_prefixText, netdPrefixSortKey_prefixText] at hle
  rcases hle with hlt | ⟨heq, hkind⟩
  · omega
  · have hcodes := hcode a b hkind
    have hcodesNe : code a ≠ code b := hne.resolve_left fun h =>
      h (Ipv4Prefix.rank_injective heq)
    omega

/-- The sorted entries of a list are the entries of a list in order. -/
theorem insertionSort_entries (entry : α → Entry) (values : List α) :
    ∃ sorted : List α, (values.map entry).insertionSort Entry.le = sorted.map entry
      ∧ sorted.Perm values ∧ sorted.Pairwise (fun a b => (entry a).le (entry b)) := by
  let le (a b : α) : Prop := (entry a).le (entry b)
  have : DecidableRel le := fun a b => inferInstanceAs (Decidable ((entry a).le (entry b)))
  have : Std.Total le := ⟨fun a b => entryLe_total _ _⟩
  have : IsTrans α le := ⟨fun _ _ _ => entryLe_trans⟩
  refine ⟨values.insertionSort le, ?_, List.perm_insertionSort _ _, List.pairwise_insertionSort _ _⟩
  exact (List.map_insertionSort le Entry.le entry values fun a _ b _ => Iff.rfl).symm

/-! ## The exclusions -/

/-- The entries of a map, in the order of their keys. -/
def Ordered (entries : List Entry) : Prop :=
  entries.Pairwise fun a b => a.ipv4Prefix < b.ipv4Prefix

/-- An insertion replaces the entry with the same key. -/
theorem mem_insertEntry {text kind : String} {entries : List Entry} (hordered : Ordered entries)
    (entry : Entry) : entry ∈ insertEntry text kind entries
      ↔ entry = ⟨text, kind⟩ ∨ (entry ∈ entries ∧ entry.ipv4Prefix ≠ text) := by
  induction entries with
  | nil => simp [insertEntry]
  | cons first rest ih =>
    have hfirst : ∀ b ∈ rest, first.ipv4Prefix < b.ipv4Prefix :=
      fun b hb => List.rel_of_pairwise_cons hordered hb
    have hne : ∀ a ∈ first :: rest, text < first.ipv4Prefix → a.ipv4Prefix ≠ text := by
      rintro a ha hlt rfl
      rcases List.mem_cons.mp ha with rfl | ha
      · exact absurd hlt (String.lt_irrefl _)
      · exact String.lt_asymm hlt (hfirst a ha)
    unfold insertEntry
    split_ifs with heq hlt
    · have hothers : ∀ a ∈ rest, a.ipv4Prefix ≠ text := by
        rintro a ha rfl
        exact absurd (heq ▸ hfirst a ha) (String.lt_irrefl _)
      simp only [List.mem_cons]
      constructor
      · rintro (rfl | hrest)
        · exact .inl rfl
        · exact .inr ⟨.inr hrest, hothers entry hrest⟩
      · rintro (rfl | ⟨rfl | hrest, hdiffers⟩)
        · exact .inl rfl
        · exact absurd heq.symm hdiffers
        · exact .inr hrest
    · rw [List.mem_cons]
      constructor
      · rintro (rfl | hmem)
        · exact .inl rfl
        · exact .inr ⟨hmem, hne entry hmem hlt⟩
      · rintro (rfl | ⟨hmem, _⟩)
        · exact .inl rfl
        · exact .inr hmem
    · rw [List.mem_cons, ih hordered.of_cons, List.mem_cons]
      constructor
      · rintro (rfl | rfl | ⟨hmem, hdiffers⟩)
        · exact .inr ⟨.inl rfl, fun h => heq h.symm⟩
        · exact .inl rfl
        · exact .inr ⟨.inr hmem, hdiffers⟩
      · rintro (rfl | ⟨rfl | hmem, hdiffers⟩)
        · exact .inr (.inl rfl)
        · exact .inl rfl
        · exact .inr (.inr ⟨hmem, hdiffers⟩)

theorem ordered_insertEntry {text kind : String} {entries : List Entry} (hordered : Ordered entries) :
    Ordered (insertEntry text kind entries) := by
  induction entries with
  | nil => exact List.pairwise_singleton _ _
  | cons first rest ih =>
    have hfirst : ∀ b ∈ rest, first.ipv4Prefix < b.ipv4Prefix :=
      fun b hb => List.rel_of_pairwise_cons hordered hb
    unfold insertEntry
    split_ifs with heq hlt
    · refine List.pairwise_cons.mpr ⟨fun b hb => ?_, hordered.of_cons⟩
      show text < b.ipv4Prefix
      rw [heq]
      exact hfirst b hb
    · refine List.pairwise_cons.mpr ⟨fun b hb => ?_, hordered⟩
      show text < b.ipv4Prefix
      rcases List.mem_cons.mp hb with rfl | hb
      · exact hlt
      · exact String.lt_trans hlt (hfirst b hb)
    · refine List.pairwise_cons.mpr ⟨fun b hb => ?_, ih hordered.of_cons⟩
      rcases (mem_insertEntry hordered.of_cons b).mp hb with rfl | ⟨hmem, _⟩
      · exact Std.lt_of_le_of_ne (String.not_lt.mp hlt) fun h => heq h.symm
      · exact hfirst b hmem

/-- What is in the map after some insertions with one kind. -/
theorem foldl_insertEntry (kind : String) (texts : List String) (entries : List Entry)
    (hordered : Ordered entries) :
    Ordered (texts.foldl (fun entries text => insertEntry text kind entries) entries)
      ∧ ∀ entry, entry ∈ texts.foldl (fun entries text => insertEntry text kind entries) entries
        ↔ (∃ text ∈ texts, entry = ⟨text, kind⟩)
          ∨ (entry ∈ entries ∧ entry.ipv4Prefix ∉ texts) := by
  induction texts generalizing entries with
  | nil => exact ⟨hordered, fun entry => by simp⟩
  | cons text texts ih =>
    obtain ⟨hresult, hmem⟩ := ih (insertEntry text kind entries) (ordered_insertEntry hordered)
    refine ⟨hresult, fun entry => ?_⟩
    rw [List.foldl_cons, hmem, mem_insertEntry hordered]
    constructor
    · rintro (⟨text', htext', rfl⟩ | ⟨rfl | ⟨hentry, hne⟩, hnew⟩)
      · exact .inl ⟨text', List.mem_cons_of_mem _ htext', rfl⟩
      · exact .inl ⟨text, List.mem_cons_self, rfl⟩
      · refine .inr ⟨hentry, ?_⟩
        rw [List.mem_cons]
        rintro (heq | hmem')
        · exact hne heq
        · exact hnew hmem'
    · rintro (⟨text', htext', rfl⟩ | ⟨hentry, hnew⟩)
      · rcases List.mem_cons.mp htext' with rfl | htext'
        · by_cases hlater : text' ∈ texts
          · exact .inl ⟨text', hlater, rfl⟩
          · exact .inr ⟨.inl rfl, hlater⟩
        · exact .inl ⟨text', htext', rfl⟩
      · rw [List.mem_cons, not_or] at hnew
        exact .inr ⟨.inr ⟨hentry, hnew.1⟩, hnew.2⟩

theorem mem_dedupSorted (text : String) : ∀ texts, text ∈ dedupSorted texts ↔ text ∈ texts
  | [] => by simp [dedupSorted]
  | [a] => by simp [dedupSorted]
  | a :: b :: rest => by
    have ih := mem_dedupSorted text (b :: rest)
    unfold dedupSorted
    split_ifs with heq
    · rw [ih, heq]
      simp
    · rw [List.mem_cons, ih]
      exact List.mem_cons.symm

/-- The prefixes that are excluded: those of the hubs, and the hosts of the endpoints. -/
def excluded (hubs : List Ipv4Prefix) (endpoints : List SocketAddr) : List Ipv4Prefix :=
  hubs ++ (usableAddresses endpoints).map hostPrefix

theorem cloudIpv4Exclusions_ok {endpoints : List SocketAddr} {texts : List String}
    (h : cloudIpv4Exclusions endpoints = .ok texts) :
    texts ≠ [] ∧ ∀ text, text ∈ texts ↔ ∃ address ∈ usableAddresses endpoints,
      prefixText (hostPrefix address) = text := by
  unfold cloudIpv4Exclusions at h
  simp only at h
  split_ifs at h with hempty
  obtain rfl := Except.ok.inj h
  refine ⟨hempty, fun text => ?_⟩
  rw [mem_dedupSorted, List.mem_insertionSort, List.mem_map]
  simp only [hostText_eq]

/-- A list of values of a function is the image of a list. -/
theorem exists_map_eq {α β : Type} {f : α → β} {P : α → Prop} (values : List β)
    (h : ∀ b ∈ values, ∃ a, P a ∧ f a = b) : ∃ as : List α, as.map f = values ∧ ∀ a ∈ as, P a := by
  induction values with
  | nil => exact ⟨[], rfl, nofun⟩
  | cons b values ih =>
    obtain ⟨as, hmap, has⟩ := ih fun b hb => h b (List.mem_cons_of_mem _ hb)
    obtain ⟨a, ha, hab⟩ := h b List.mem_cons_self
    refine ⟨a :: as, by rw [List.map_cons, hab, hmap], fun c hc => ?_⟩
    rcases List.mem_cons.mp hc with rfl | hc
    · exact ha
    · exact has c hc

/-- What the declaration of the exclusions comes to. -/
structure Excludes (hubs : List Ipv4Prefix) (endpoints : List SocketAddr)
    (exclusions : List UnderlayExclusion) : Prop where
  canonical : ∀ e ∈ exclusions, e.ipv4Prefix.Canonical
  nodup : (exclusions.map (·.ipv4Prefix)).Nodup
  mem : ∀ p, p ∈ exclusions.map (·.ipv4Prefix) ↔ p ∈ excluded hubs endpoints
  ne : exclusions ≠ []

theorem Excludes.perm {hubs : List Ipv4Prefix} {endpoints : List SocketAddr}
    {exclusions : List UnderlayExclusion} (h : Excludes hubs endpoints exclusions) :
    (exclusions.map (·.ipv4Prefix)).Perm (excluded hubs endpoints).dedup := by
  rw [List.perm_ext_iff_of_nodup h.nodup (List.nodup_dedup _)]
  intro p
  rw [h.mem, List.mem_dedup]

/-- The map of the exclusions has one entry for each prefix. -/
theorem exclusions_of_texts {hubs : List Ipv4Prefix} (hhubs : ∀ p ∈ hubs, p.Canonical)
    {endpoints : List SocketAddr} {texts : List String}
    (htexts : cloudIpv4Exclusions endpoints = .ok texts) :
    ∃ exclusions : List UnderlayExclusion, Excludes hubs endpoints exclusions
      ∧ texts.foldl (fun entries text => insertEntry text "cloud-api" entries)
        ((hubs.map prefixText).foldl (fun entries text => insertEntry text "hub-endpoint" entries) [])
        = exclusions.map exclusionEntry := by
  obtain ⟨hne, hcloud⟩ := cloudIpv4Exclusions_ok htexts
  obtain ⟨hhubsOrdered, hhubsMem⟩ := foldl_insertEntry "hub-endpoint" (hubs.map prefixText) []
    List.Pairwise.nil
  obtain ⟨hordered, hmem⟩ := foldl_insertEntry "cloud-api" texts _ hhubsOrdered
  generalize texts.foldl (fun entries text => insertEntry text "cloud-api" entries) _ = entries
    at hordered hmem ⊢
  simp only [List.mem_map, List.not_mem_nil, false_and, or_false] at hhubsMem
  have hentries : ∀ entry ∈ entries, ∃ e : UnderlayExclusion,
      e.ipv4Prefix.Canonical ∧ exclusionEntry e = entry := by
    intro entry hentry
    rcases (hmem entry).mp hentry with ⟨text, htext, rfl⟩ | ⟨hhub, _⟩
    · obtain ⟨address, _, rfl⟩ := (hcloud text).mp htext
      exact ⟨⟨hostPrefix address, .cloudApi⟩, hostPrefix_canonical address, rfl⟩
    · obtain ⟨text, ⟨p, hp, rfl⟩, rfl⟩ := (hhubsMem entry).mp hhub
      exact ⟨⟨p, .hubEndpoint⟩, hhubs p hp, rfl⟩
  obtain ⟨exclusions, hmap, hcanonical⟩ := exists_map_eq entries hentries
  have hprefixes : ∀ p, p ∈ exclusions.map (·.ipv4Prefix)
      ↔ ∃ entry ∈ entries, entry.ipv4Prefix = prefixText p := by
    intro p
    rw [← hmap, List.mem_map]
    constructor
    · rintro ⟨e, he, rfl⟩
      exact ⟨_, List.mem_map_of_mem he, rfl⟩
    · rintro ⟨entry, hentry, htext⟩
      obtain ⟨e, he, rfl⟩ := List.mem_map.mp hentry
      exact ⟨e, he, prefixText_injective htext⟩
  have hall : ∀ p, p ∈ exclusions.map (·.ipv4Prefix) ↔ p ∈ excluded hubs endpoints := by
    intro p
    rw [hprefixes, excluded, List.mem_append, List.mem_map]
    constructor
    · rintro ⟨entry, hentry, htext⟩
      rcases (hmem entry).mp hentry with ⟨text, hin, rfl⟩ | ⟨hhub, _⟩
      · obtain ⟨address, haddress, rfl⟩ := (hcloud text).mp hin
        exact .inr ⟨address, haddress, prefixText_injective htext⟩
      · obtain ⟨text, ⟨q, hq, rfl⟩, rfl⟩ := (hhubsMem entry).mp hhub
        rw [← prefixText_injective htext]
        exact .inl hq
    · intro hp
      -- A hub that is an endpoint as well is declared as the endpoint.
      by_cases hin : prefixText p ∈ texts
      · exact ⟨⟨prefixText p, "cloud-api"⟩, (hmem _).mpr (.inl ⟨_, hin, rfl⟩), rfl⟩
      · rcases hp with hp | ⟨address, haddress, rfl⟩
        · refine ⟨⟨prefixText p, "hub-endpoint"⟩, (hmem _).mpr (.inr ⟨?_, hin⟩), rfl⟩
          exact (hhubsMem _).mpr ⟨_, ⟨p, hp, rfl⟩, rfl⟩
        · exact absurd ((hcloud _).mpr ⟨address, haddress, rfl⟩) hin
  refine ⟨exclusions, ⟨hcanonical, ?_, hall, ?_⟩, hmap.symm⟩
  · have hdistinct : (entries.map (·.ipv4Prefix)).Nodup := by
      unfold List.Nodup
      rw [List.pairwise_map]
      refine hordered.imp fun hlt heq => ?_
      rw [heq] at hlt
      exact String.lt_irrefl _ hlt
    rw [← hmap, List.map_map] at hdistinct
    refine List.Nodup.of_map prefixText ?_
    rw [List.map_map]
    exact hdistinct
  · rintro rfl
    obtain ⟨text, htext⟩ := List.exists_mem_of_ne_nil texts hne
    have hentry := (hmem ⟨text, "cloud-api"⟩).mpr (.inl ⟨text, htext, rfl⟩)
    rw [← hmap] at hentry
    cases hentry

/-! ## The length of the file -/

/-- A character of one byte that needs no escape. -/
def Plain (c : Char) : Prop := jsonChar c = [c] ∧ c.utf8Size = 1

instance (c : Char) : Decidable (Plain c) := by
  unfold Plain
  infer_instance

theorem plain_of_all (h : text.all (fun c => decide (Plain c)) = true) :
    ∀ c ∈ text, Plain c :=
  fun c hc => of_decide_eq_true (List.all_eq_true.mp h c hc)

theorem plain_of_isDigit {c : Char} (hc : c.isDigit = true) : Plain c := by
  have hrange : 48 ≤ c.toNat ∧ c.toNat ≤ 57 := by
    unfold Char.isDigit at hc
    rw [Bool.and_eq_true, decide_eq_true_eq, decide_eq_true_eq] at hc
    exact ⟨UInt32.le_iff_toNat_le.mp hc.1, UInt32.le_iff_toNat_le.mp hc.2⟩
  have hquote : c ≠ '"' := by
    rintro rfl
    exact absurd hrange (by decide)
  have hslash : c ≠ '\\' := by
    rintro rfl
    exact absurd hrange (by decide)
  refine ⟨?_, ?_⟩
  · unfold jsonChar
    rw [if_neg hquote, if_neg hslash, if_neg (by omega), if_neg (by omega), if_neg (by omega),
      if_neg (by omega), if_neg (by omega), if_neg (by omega)]
  · rw [Char.utf8Size_eq_one_iff, UInt32.le_iff_toNat_le]
    show c.toNat ≤ 127
    omega

@[simp] theorem utf8Length_nil : utf8Length [] = 0 := rfl

@[simp] theorem utf8Length_append (a b : List Char) :
    utf8Length (a ++ b) = utf8Length a + utf8Length b := by
  simp [utf8Length]

@[simp] theorem utf8Length_cons (c : Char) (text : List Char) :
    utf8Length (c :: text) = c.utf8Size + utf8Length text := by
  simp [utf8Length]

/-- A plain text is as long as it has characters, also as a string of JSON. -/
theorem utf8Length_plain (h : ∀ c ∈ text, Plain c) :
    utf8Length text = text.length ∧ utf8Length (text.flatMap jsonChar) = text.length := by
  induction text with
  | nil => exact ⟨rfl, rfl⟩
  | cons c text ih =>
    obtain ⟨hchar, hsize⟩ := h c List.mem_cons_self
    obtain ⟨hplain, hjson⟩ := ih fun d hd => h d (List.mem_cons_of_mem c hd)
    rw [List.flatMap_cons, hchar, utf8Length_append, utf8Length_cons, utf8Length_cons, hsize, hplain,
      hjson, List.length_cons]
    simp only [utf8Length_nil]
    omega

theorem utf8Length_jsonString {text : String} (h : ∀ c ∈ text.toList, Plain c) :
    utf8Length (jsonString text) = text.toList.length + 2 := by
  have hquote : '"'.utf8Size = 1 := by decide
  unfold jsonString
  rw [utf8Length_cons, utf8Length_append, (utf8Length_plain h).2, utf8Length_cons, utf8Length_nil,
    hquote]
  omega

theorem utf8Length_jsonNumber_le {n k : ℕ} (hk : 0 < k) (hn : n < 10 ^ k) :
    utf8Length (jsonNumber n) ≤ k := by
  have hplain : ∀ c ∈ Nat.toDigits 10 n, Plain c := fun c hc =>
    plain_of_isDigit (Nat.isDigit_of_mem_toDigits (by decide) (by decide) hc)
  unfold jsonNumber
  rw [(utf8Length_plain hplain).1]
  exact (Nat.length_toDigits_le_iff (by decide) hk).mpr hn

/-- Values with commas between them. -/
theorem utf8Length_intercalate_le (values : List (List Char)) :
    utf8Length ([','].intercalate values) ≤ (values.map fun value => utf8Length value + 1).sum := by
  have hcomma : ','.utf8Size = 1 := by decide
  induction values with
  | nil => simp [List.intercalate]
  | cons value values ih =>
    cases values with
    | nil => simp [List.intercalate]
    | cons value' values =>
      have hsplit : [','].intercalate (value :: value' :: values)
          = value ++ (',' :: [','].intercalate (value' :: values)) := by
        simp [List.intercalate, List.intersperse_cons_cons]
      rw [hsplit, utf8Length_append, utf8Length_cons, hcomma, List.map_cons, List.sum_cons]
      omega

theorem utf8Length_jsonArray_le {values : List (List Char)} {bound : ℕ}
    (h : ∀ value ∈ values, utf8Length value ≤ bound) :
    utf8Length (jsonArray values) ≤ values.length * (bound + 1) + 2 := by
  have hvalues := utf8Length_intercalate_le values
  have hsum : (values.map fun value => utf8Length value + 1).sum ≤ values.length * (bound + 1) := by
    have hle := List.sum_le_card_nsmul (values.map fun value => utf8Length value + 1) (bound + 1)
    rw [List.length_map, smul_eq_mul] at hle
    refine hle fun n hn => ?_
    obtain ⟨value, hvalue, rfl⟩ := List.mem_map.mp hn
    exact Nat.succ_le_succ (h value hvalue)
  have hopen : '['.utf8Size = 1 := by decide
  have hclose : ']'.utf8Size = 1 := by decide
  unfold jsonArray
  rw [utf8Length_cons, utf8Length_append, utf8Length_cons, utf8Length_nil, hopen, hclose]
  omega

theorem utf8Length_jsonObject_le (fields : List (String × List Char)) :
    utf8Length (jsonObject fields)
      ≤ (fields.map fun field => utf8Length field.1.toList + utf8Length field.2 + 4).sum + 2 := by
  have hquote : '"'.utf8Size = 1 := by decide
  have hcolon : ':'.utf8Size = 1 := by decide
  have hopen : '\x7b'.utf8Size = 1 := by decide
  have hclose : '\x7d'.utf8Size = 1 := by decide
  have hfields := utf8Length_intercalate_le (fields.map fun field =>
    '"' :: (field.1.toList ++ ('"' :: ':' :: field.2)))
  have hsum : ((fields.map fun field => '"' :: (field.1.toList ++ ('"' :: ':' :: field.2))).map
      fun value => utf8Length value + 1)
      = fields.map fun field => utf8Length field.1.toList + utf8Length field.2 + 4 := by
    rw [List.map_map]
    refine List.map_congr_left fun field _ => ?_
    show utf8Length ('"' :: (field.1.toList ++ ('"' :: ':' :: field.2))) + 1 = _
    rw [utf8Length_cons, utf8Length_append, utf8Length_cons, utf8Length_cons, hquote, hcolon]
    omega
  rw [hsum] at hfields
  unfold jsonObject
  rw [utf8Length_cons, utf8Length_append, utf8Length_cons, utf8Length_nil, hopen, hclose]
  omega

theorem plain_prefixText (p : Ipv4Prefix) : ∀ c ∈ (prefixText p).toList, Plain c := by
  have hoctet : ∀ n < 256, ∀ c ∈ octetText n, Plain c := fun n hn c hc =>
    plain_of_isDigit (List.all_eq_true.mp (octetText_spec n hn).2.2.1 c hc)
  intro c hc
  unfold prefixText at hc
  rw [String.toList_ofList, List.mem_append, List.mem_cons] at hc
  rcases hc with haddress | rfl | hlength
  · by_cases hdigit : c.isDigit = true
    · exact plain_of_isDigit hdigit
    · by_cases hdot : c = '.'
      · rw [hdot]
        decide
      · exact absurd haddress (not_mem_addressText (by simpa using hdigit) hdot)
  · decide
  · exact hoctet _ p.prefixLen.toNat_lt c hlength

theorem length_prefixText_le (p : Ipv4Prefix) : (prefixText p).toList.length ≤ 19 := by
  have haddress := length_addressText_le p.network
  have hlength := (octetText_spec _ p.prefixLen.toNat_lt).2.2.2
  unfold prefixText
  rw [String.toList_ofList, List.length_append, List.length_cons]
  omega

/-- An entry with a prefix and the name of a kind. -/
theorem utf8Length_entry_le (p : Ipv4Prefix) {name : String} (hname : ∀ c ∈ name.toList, Plain c)
    (hlength : name.toList.length ≤ 21) : utf8Length (Entry.json ⟨prefixText p, name⟩) ≤ 99 := by
  have hprefix := length_prefixText_le p
  have hjson := utf8Length_jsonString (plain_prefixText p)
  have hkind := utf8Length_jsonString hname
  have hobject := utf8Length_jsonObject_le
    [("prefix", jsonString (prefixText p)), ("kind", jsonString name)]
  have hprefixName : utf8Length "prefix".toList = 6 := by decide
  have hkindName : utf8Length "kind".toList = 4 := by decide
  simp only [List.map_cons, List.map_nil, List.sum_cons, List.sum_nil, hprefixName, hkindName]
    at hobject
  show utf8Length (jsonObject [("prefix", jsonString (prefixText p)), ("kind", jsonString name)]) ≤ 99
  omega

theorem utf8Length_routeEntry_le (r : RouteDeclaration) :
    utf8Length (routeEntry r).json ≤ 99 := by
  have hplain : ∀ c ∈ (routeName r.kind).toList, Plain c := by
    apply plain_of_all
    cases r.kind <;> decide
  have hlength : (routeName r.kind).toList.length ≤ 21 := by
    cases r.kind <;> decide
  exact utf8Length_entry_le r.ipv4Prefix hplain hlength

theorem utf8Length_exclusionEntry_le (e : UnderlayExclusion) :
    utf8Length (exclusionEntry e).json ≤ 99 := by
  have hplain : ∀ c ∈ (underlayName e.kind).toList, Plain c := by
    apply plain_of_all
    cases e.kind <;> decide
  have hlength : (underlayName e.kind).toList.length ≤ 21 := by
    cases e.kind <;> decide
  exact utf8Length_entry_le e.ipv4Prefix hplain hlength

/-- The text of an address that is read is plain and short. -/
theorem plain_of_parseAddress (h : parseAddress text = some address) :
    (∀ c ∈ text, Plain c) ∧ text.length ≤ 15 := by
  have hoctet : ∀ {part : List Char} {n : ℕ}, parseOctet part = some n →
      (∀ c ∈ part, Plain c) ∧ part.length ≤ 3 := by
    intro part n hpart
    unfold parseOctet at hpart
    split_ifs at hpart with hform
    refine ⟨fun c hc => plain_of_isDigit (List.all_eq_true.mp hform.2.2.1 c hc), hform.2.1⟩
  have hdot : Plain '.' := by decide
  have hsplit : List.intercalate ['.'] (text.splitOn '.') = text := List.intercalate_splitOn '.'
  unfold parseAddress parseAddressWith at h
  split at h
  next a b c d hparts =>
    simp only [Option.bind_eq_bind, Option.bind_eq_some_iff] at h
    obtain ⟨na, ha, nb, hb, nc, hc, nd, hd, _⟩ := h
    obtain ⟨hplainA, hlengthA⟩ := hoctet ha
    obtain ⟨hplainB, hlengthB⟩ := hoctet hb
    obtain ⟨hplainC, hlengthC⟩ := hoctet hc
    obtain ⟨hplainD, hlengthD⟩ := hoctet hd
    have htext : a ++ '.' :: (b ++ '.' :: (c ++ '.' :: d)) = text := by
      rw [← hsplit, hparts]
      simp [List.intercalate, List.intersperse_cons_cons]
    rw [← htext]
    refine ⟨fun x hx => ?_, ?_⟩
    · simp only [List.mem_append, List.mem_cons] at hx
      rcases hx with hx | rfl | hx | rfl | hx | rfl | hx
      · exact hplainA x hx
      · exact hdot
      · exact hplainB x hx
      · exact hdot
      · exact hplainC x hx
      · exact hdot
      · exact hplainD x hx
    · simp only [List.length_append, List.length_cons]
      omega
  next => cases h

theorem utf8Length_json_pos (d : NetdDeclaration) : 0 < utf8Length d.json := by
  unfold NetdDeclaration.json jsonObject
  rw [utf8Length_cons]
  exact Nat.lt_of_lt_of_le (Char.utf8Size_pos _) (Nat.le_add_right _ _)

/-- The file of a declaration with at most as many entries as the protocol takes is short enough. -/
theorem utf8Length_json_le {d : NetdDeclaration} {routes : List RouteDeclaration}
    {exclusions : List UnderlayExclusion} {router : UInt32}
    (hroutes : d.routes = routes.map routeEntry) (hroutesLength : routes.length ≤ maxRoutes)
    (hexclusions : d.exclusions = exclusions.map exclusionEntry)
    (hexclusionsLength : exclusions.length ≤ maxExclusions)
    (hrouter : parseAddress d.overlayRouterIpv4.toList = some router) :
    utf8Length d.json ≤ maxDeclarationBytes := by
  unfold maxRoutes at hroutesLength
  unfold maxExclusions at hexclusionsLength
  have htable : utf8Length (jsonNumber d.tableId.toNat) ≤ 10 :=
    utf8Length_jsonNumber_le (by decide) (Nat.lt_trans d.tableId.toNat_lt (by norm_num))
  have hmtu : utf8Length (jsonNumber d.effectiveMtu.toNat) ≤ 5 :=
    utf8Length_jsonNumber_le (by decide) (Nat.lt_trans d.effectiveMtu.toNat_lt (by norm_num))
  have hrouterText : utf8Length (jsonString d.overlayRouterIpv4) ≤ 17 := by
    obtain ⟨hplain, hlength⟩ := plain_of_parseAddress hrouter
    rw [utf8Length_jsonString hplain]
    omega
  have hroutesJson : utf8Length (jsonArray (d.routes.map Entry.json)) ≤ routes.length * 100 + 2 := by
    have hcount : (routes.map (Entry.json ∘ routeEntry)).length = routes.length :=
      List.length_map _
    rw [hroutes, List.map_map, ← hcount]
    refine utf8Length_jsonArray_le fun value hvalue => ?_
    obtain ⟨r, _, rfl⟩ := List.mem_map.mp hvalue
    exact utf8Length_routeEntry_le r
  have hexclusionsJson : utf8Length (jsonArray (d.exclusions.map Entry.json))
      ≤ exclusions.length * 100 + 2 := by
    have hcount : (exclusions.map (Entry.json ∘ exclusionEntry)).length = exclusions.length :=
      List.length_map _
    rw [hexclusions, List.map_map, ← hcount]
    refine utf8Length_jsonArray_le fun value hvalue => ?_
    obtain ⟨e, _, rfl⟩ := List.mem_map.mp hvalue
    exact utf8Length_exclusionEntry_le e
  have hbool : ∀ b, utf8Length (jsonBool b) ≤ 5 := by decide
  have hfirewall := utf8Length_jsonObject_le [
    ("allow_forward", jsonBool d.firewall.allowForward),
    ("clamp_tcp_mss", jsonBool d.firewall.clampTcpMss),
    ("require_ipv4_forwarding", jsonBool d.firewall.requireIpv4Forwarding),
    ("manage_rp_filter", jsonBool d.firewall.manageRpFilter)]
  have hnames : utf8Length "allow_forward".toList = 13 ∧ utf8Length "clamp_tcp_mss".toList = 13
      ∧ utf8Length "require_ipv4_forwarding".toList = 23
      ∧ utf8Length "manage_rp_filter".toList = 16 ∧ utf8Length "table_id".toList = 8
      ∧ utf8Length "overlay_router_ipv4".toList = 19 ∧ utf8Length "effective_mtu".toList = 13
      ∧ utf8Length "routes".toList = 6 ∧ utf8Length "exclusions".toList = 10
      ∧ utf8Length "firewall".toList = 8 := by
    decide
  obtain ⟨h1, h2, h3, h4, h5, h6, h7, h8, h9, h10⟩ := hnames
  simp only [List.map_cons, List.map_nil, List.sum_cons, List.sum_nil, h1, h2, h3, h4] at hfirewall
  have hb1 := hbool d.firewall.allowForward
  have hb2 := hbool d.firewall.clampTcpMss
  have hb3 := hbool d.firewall.requireIpv4Forwarding
  have hb4 := hbool d.firewall.manageRpFilter
  unfold NetdDeclaration.json
  refine Nat.le_trans (utf8Length_jsonObject_le _) ?_
  simp only [List.map_cons, List.map_nil, List.sum_cons, List.sum_nil, h5, h6, h7, h8, h9, h10]
  unfold maxDeclarationBytes
  omega

/-! ## Acceptance -/

/-- The report and the endpoints name these routes, hubs and router, and netd can take them together:
no two routes to sites meet, no route to a site meets an exclusion, and the router is outside of all
of them. -/
structure Admissible (netd : DiscoveredNetd) (endpoints : List SocketAddr)
    (routes : List RouteDeclaration) (hubs : List Ipv4Prefix) (router : UInt32) : Prop where
  routesText : netd.routes = routes.map routeEntry
  hubsText : netd.underlayIpv4Exclusions = hubs.map prefixText
  routerText : parseAddress netd.overlayRouterIpv4.toList = some router
  routesCanonical : ∀ r ∈ routes, r.ipv4Prefix.Canonical
  hubsCanonical : ∀ p ∈ hubs, p.Canonical
  routesNodup : routes.Nodup
  routesApart :
    ((routes.filter (·.kind != .remoteEgress)).map (·.ipv4Prefix)).Pairwise Ipv4Prefix.Apart
  hubsApart : ∀ p ∈ hubs, ∀ q ∈ hubs, p ≠ q → p.Apart q
  hubsDisjoint : ∀ r ∈ routes, r.kind ≠ .remoteEgress → ∀ p ∈ hubs,
    r.ipv4Prefix.overlaps p = false
  cloudDisjoint : ∀ r ∈ routes, r.kind ≠ .remoteEgress →
    ∀ address ∈ usableAddresses endpoints, r.ipv4Prefix.overlaps (hostPrefix address) = false
  routerRoutes : ∀ r ∈ routes, r.kind ≠ .remoteEgress → r.ipv4Prefix.contains router = false
  routerHubs : ∀ p ∈ hubs, p.contains router = false

/-- The report is within the limits of the netd protocol. -/
structure Within (netd : DiscoveredNetd) (endpoints : List SocketAddr) (hubs : List Ipv4Prefix)
    (router : UInt32) : Prop where
  mtu : netd.maxInnerMtu ≤ 1400
  routes : 1 ≤ netd.localPrefixes.length + netd.remoteRoutes.length
    ∧ netd.localPrefixes.length + netd.remoteRoutes.length ≤ maxRoutes
  exclusions : (excluded hubs endpoints).dedup.length ≤ maxExclusions
  cloudHubs : ∀ p ∈ hubs, ∀ address ∈ usableAddresses endpoints,
    p ≠ hostPrefix address → p.Apart (hostPrefix address)
  routerCloud : router ∉ usableAddresses endpoints
  routerUnicast : router ≠ 0 ∧ router >>> 24 < 224

/-- The file that `serde_json::to_vec` writes is not empty, and not longer than without blanks. -/
structure Compact (size : NetdDeclaration → ℕ) : Prop where
  pos : ∀ d, 0 < size d
  le : ∀ d, size d ≤ utf8Length d.json

/-- The agent reads the published file of this size, and the requests with it can be sent to netd. -/
def Accepted (size : NetdDeclaration → ℕ) (declaration : NetdDeclaration) : Prop :=
  ∃ d, parseDeclaration (size declaration) declaration = .ok d
    ∧ ∀ request : NetdRequest, NetdRequest.Declares request.operation d → request.requestId ≠ 0 →
      request.owner.validate = .ok () →
      ∃ frame, request.encode = .ok frame ∧ frame.length ≤ maxNetdFrameLen

theorem hostPrefix_contains {a b : UInt32} : (hostPrefix a).contains b = true ↔ b = a := by
  have hmask : prefixMask 32 = 0xffffffff := by decide
  unfold Ipv4Prefix.contains hostPrefix
  rw [hmask, beq_iff_eq]
  have hall : b &&& 0xffffffff = b := UInt32.and_neg_one
  rw [hall]

theorem hostPrefix_apart {a b : UInt32} (h : a ≠ b) :
    (hostPrefix a).Apart (hostPrefix b) := by
  have hmask : ~~~ prefixMask 32 = 0 := by decide
  have hlast : ∀ c, (hostPrefix c).last = c.toNat := by
    intro c
    unfold Ipv4Prefix.last hostPrefix
    simp only [hmask]
    simp
  have hne : a.toNat ≠ b.toNat := fun heq => h (UInt32.toNat_inj.mp heq)
  unfold Ipv4Prefix.Apart
  rw [hlast, hlast]
  show a.toNat < b.toNat ∨ b.toNat < a.toNat
  omega

/-- A canonical prefix without network bits contains every address. -/
theorem contains_of_prefixLen_zero {p : Ipv4Prefix} (hp : p.Canonical) (hzero : p.prefixLen = 0)
    (address : UInt32) : p.contains address = true := by
  have hmask : ~~~ prefixMask 0 = -1 := by decide
  have hmask' : prefixMask 0 = 0 := by decide
  have hnetwork : p.network = 0 := by
    unfold Ipv4Prefix.Canonical Ipv4Prefix.new at hp
    rw [hzero, hmask, UInt32.and_neg_one] at hp
    by_contra hne
    rw [if_neg (by decide), if_pos hne] at hp
    cases hp
  unfold Ipv4Prefix.contains
  rw [hzero, hmask', hnetwork]
  simp

/-- What the synchronizer takes for an address, the agent reads as the same one. -/
theorem parseIpv4_of_parseAddress {text : String} (h : parseAddress text.toList = some address) :
    parseIpv4 text = .ok address := by
  have hoctet : ∀ {part : List Char} {n : ℕ}, parseOctet part = some n →
      (parseAgentOctet part).toOption = some n := fun hpart => by
    rw [parseAgentOctet_of_parseOctet hpart]
    rfl
  rw [parseIpv4_eq_ok]
  unfold parseAddress parseAddressWith at h
  unfold parseAddressWith
  split at h
  next a b c d hparts =>
    simp only [Option.bind_eq_bind, Option.bind_eq_some_iff] at h
    obtain ⟨na, ha, nb, hb, nc, hc, nd, hd, hvalue⟩ := h
    simp only [hoctet ha, hoctet hb, hoctet hc, hoctet hd, Option.bind_eq_bind, Option.bind_some,
      hvalue]
  next => cases h

/-- The exclusions can be given in any order. -/
theorem Excludes.of_perm {hubs : List Ipv4Prefix} {endpoints : List SocketAddr}
    {exclusions sorted : List UnderlayExclusion} (h : Excludes hubs endpoints exclusions)
    (hperm : sorted.Perm exclusions) : Excludes hubs endpoints sorted where
  canonical e he := h.canonical e (hperm.mem_iff.mp he)
  nodup := (hperm.map _).nodup_iff.mpr h.nodup
  mem p := by rw [← h.mem, (hperm.map _).mem_iff]
  ne hempty := h.ne (by rw [hempty] at hperm; exact hperm.nil_eq.symm)

/-- The declaration that the protocol is given. -/
def declared (netd : DiscoveredNetd) (router : UInt32) (routes : List RouteDeclaration)
    (exclusions : List UnderlayExclusion) : PrepareDeclaration where
  tableId := netd.tableId
  overlayRouterIpv4 := router
  effectiveMtu := netd.maxInnerMtu
  routes := routes
  exclusions := exclusions
  firewall := {
    allowForward := true
    clampTcpMss := true
    requireIpv4Forwarding := true
    manageRpFilter := true }

/-- The published entries are those of the routes and of the exclusions, in order. -/
structure Publishes (netd : DiscoveredNetd) (endpoints : List SocketAddr)
    (routes : List RouteDeclaration) (hubs : List Ipv4Prefix) (declaration : NetdDeclaration)
    (routes' : List RouteDeclaration) (exclusions : List UnderlayExclusion) : Prop where
  tableId : declaration.tableId = netd.tableId
  router : declaration.overlayRouterIpv4 = netd.overlayRouterIpv4
  mtu : declaration.effectiveMtu = netd.maxInnerMtu
  firewall : declaration.firewall = (declared netd 0 routes' exclusions).firewall
  routesEq : declaration.routes = routes'.map routeEntry
  routesPerm : routes'.Perm routes
  routesSorted : routes'.Pairwise (fun a b => (routeEntry a).le (routeEntry b))
  exclusionsEq : declaration.exclusions = exclusions.map exclusionEntry
  excludes : Excludes hubs endpoints exclusions
  exclusionsSorted : exclusions.Pairwise (fun a b => (exclusionEntry a).le (exclusionEntry b))

theorem publishes_of_build {report : DiscoveredControlReport} {endpoints : List SocketAddr}
    {routes : List RouteDeclaration} {hubs : List Ipv4Prefix} {router : UInt32}
    (hadmissible : Admissible report.netd endpoints routes hubs router)
    {declaration : NetdDeclaration} (hbuild : buildNetdDeclaration report endpoints = .ok declaration) :
    ∃ routes' exclusions, Publishes report.netd endpoints routes hubs declaration routes' exclusions := by
  unfold buildNetdDeclaration at hbuild
  cases hcloud : cloudIpv4Exclusions endpoints with
  | error e =>
    rw [hcloud] at hbuild
    cases hbuild
  | ok texts =>
    obtain ⟨exclusions, hexcludes, hentries⟩ := exclusions_of_texts hadmissible.hubsCanonical hcloud
    obtain ⟨routes', hroutes, hroutesPerm, hroutesSorted⟩ := insertionSort_entries routeEntry routes
    obtain ⟨exclusions', hexclusions, hperm, hsorted⟩ :=
      insertionSort_entries exclusionEntry exclusions
    rw [hcloud, hadmissible.routesText, hadmissible.hubsText] at hbuild
    simp only [Bind.bind, Except.bind, Pure.pure, Except.pure] at hbuild
    rw [hentries, hroutes, hexclusions] at hbuild
    obtain rfl := Except.ok.inj hbuild
    exact ⟨routes', exclusions', rfl, rfl, rfl, rfl, rfl, hroutesPerm, hroutesSorted, rfl,
      hexcludes.of_perm hperm, hsorted⟩

/-- The agent reads the entries back, and then it is the protocol that decides. -/
theorem parseDeclaration_eq_ok_iff {netd : DiscoveredNetd} {endpoints : List SocketAddr}
    {routes routes' : List RouteDeclaration} {hubs : List Ipv4Prefix} {router : UInt32}
    {declaration : NetdDeclaration} {exclusions : List UnderlayExclusion}
    (hadmissible : Admissible netd endpoints routes hubs router)
    (hpublishes : Publishes netd endpoints routes hubs declaration routes' exclusions)
    (length : ℕ) (d : PrepareDeclaration) :
    parseDeclaration length declaration = .ok d
      ↔ 0 < length ∧ length ≤ maxDeclarationBytes ∧ d = declared netd router routes' exclusions
        ∧ d.validate = .ok () := by
  have hroutes : declaration.routes.mapM parseRoute = .ok routes' := by
    rw [hpublishes.routesEq]
    refine mapM_entries routes' fun r hr => parseRoute_routeEntry ?_
    exact hadmissible.routesCanonical r (hpublishes.routesPerm.mem_iff.mp hr)
  have hexclusions : declaration.exclusions.mapM parseExclusion = .ok exclusions := by
    rw [hpublishes.exclusionsEq]
    exact mapM_entries exclusions fun e he =>
      parseExclusion_exclusionEntry (hpublishes.excludes.canonical e he)
  have hrouter : parseIpv4 declaration.overlayRouterIpv4 = .ok router := by
    rw [hpublishes.router]
    exact parseIpv4_of_parseAddress hadmissible.routerText
  have hdeclared : (⟨declaration.tableId, router, declaration.effectiveMtu, routes', exclusions,
      declaration.firewall⟩ : PrepareDeclaration) = declared netd router routes' exclusions := by
    rw [hpublishes.tableId, hpublishes.mtu, hpublishes.firewall]
    rfl
  unfold parseDeclaration
  by_cases hlength : 0 < length ∧ length ≤ maxDeclarationBytes
  · have hsize : (decide (length = 0) || decide (maxDeclarationBytes < length)) = false := by
      rw [Bool.or_eq_false_iff, decide_eq_false_iff_not, decide_eq_false_iff_not]
      omega
    rw [hsize, hroutes, hexclusions, hrouter]
    simp only [refuseIf, Bind.bind, Except.bind, hdeclared, hlength, true_and, Bool.false_eq_true,
      if_false]
    cases hvalid : (declared netd router routes' exclusions).validate with
    | error e =>
      refine iff_of_false (fun h => by cases h) fun h => ?_
      obtain ⟨rfl, hok⟩ := h
      rw [hvalid] at hok
      cases hok
    | ok =>
      constructor
      · intro h
        obtain rfl := Except.ok.inj h
        exact ⟨rfl, hvalid⟩
      · rintro ⟨rfl, _⟩
        rfl
  · have hsize : (decide (length = 0) || decide (maxDeclarationBytes < length)) = true := by
      rw [Bool.or_eq_true, decide_eq_true_eq, decide_eq_true_eq]
      omega
    rw [hsize]
    refine iff_of_false (fun h => by cases h) fun h => ?_
    exact hlength ⟨h.1, h.2.1⟩

theorem bound_of_validate {isSocketAddr : String → Bool} {report : DiscoveredControlReport}
    {configuration : RuntimeConfiguration} {identity : DeviceIdentity}
    (h : validateDiscoveredControl isSocketAddr report configuration identity = .ok ()) :
    (20000 ≤ report.netd.tableId.toNat ∧ report.netd.tableId.toNat ≤ 20999)
      ∧ 576 ≤ report.netd.maxInnerMtu := by
  have hbound : report.isBound configuration identity = true := by
    by_contra hnot
    rw [Bool.not_eq_true] at hnot
    unfold validateDiscoveredControl at h
    rw [hnot] at h
    cases h
  unfold DiscoveredControlReport.isBound at hbound
  simp only [Bool.and_eq_true, decide_eq_true_eq] at hbound
  exact ⟨hbound.1.1.1.1.1.1.2, hbound.1.1.1.1.1.2⟩

section Limits

variable {netd : DiscoveredNetd} {endpoints : List SocketAddr}
  {routes routes' : List RouteDeclaration} {hubs : List Ipv4Prefix} {router : UInt32}
  {declaration : NetdDeclaration} {exclusions : List UnderlayExclusion}

theorem routes_length (hadmissible : Admissible netd endpoints routes hubs router)
    (hpublishes : Publishes netd endpoints routes hubs declaration routes' exclusions) :
    routes'.length = netd.localPrefixes.length + netd.remoteRoutes.length := by
  have htext := congrArg List.length hadmissible.routesText
  unfold DiscoveredNetd.routes at htext
  rw [List.length_append, List.length_map, List.length_map, List.length_map] at htext
  rw [hpublishes.routesPerm.length_eq, htext]

theorem exclusions_length
    (hpublishes : Publishes netd endpoints routes hubs declaration routes' exclusions) :
    exclusions.length = (excluded hubs endpoints).dedup.length := by
  rw [← hpublishes.excludes.perm.length_eq, List.length_map]

/-- What the protocol accepts is within its limits. -/
theorem within_of_valid (hadmissible : Admissible netd endpoints routes hubs router)
    (hpublishes : Publishes netd endpoints routes hubs declaration routes' exclusions)
    (hvalid : (declared netd router routes' exclusions).Valid) :
    Within netd endpoints hubs router := by
  have hcount := routes_length hadmissible hpublishes
  have hmem := hpublishes.excludes.mem
  have hcloud : ∀ address ∈ usableAddresses endpoints,
      hostPrefix address ∈ exclusions.map (·.ipv4Prefix) := by
    intro address haddress
    rw [hmem]
    exact List.mem_append_right _ (List.mem_map_of_mem haddress)
  refine ⟨hvalid.mtu.2, ⟨?_, ?_⟩, ?_, ?_, ?_, hvalid.router, hvalid.unicast⟩
  · rw [← hcount]
    exact List.length_pos_iff.mpr hvalid.routesNe
  · rw [← hcount]
    exact hvalid.routesLength
  · rw [← exclusions_length hpublishes]
    exact hvalid.exclusionsLength
  · intro p hp address haddress hne
    have hhub : p ∈ exclusions.map (·.ipv4Prefix) := by
      rw [hmem]
      exact List.mem_append_left _ hp
    have : Std.Symm Ipv4Prefix.Apart := ⟨fun _ _ h => h.symm⟩
    exact hvalid.exclusionsApart.forall hhub (hcloud address haddress) hne
  · intro hrouter
    obtain ⟨e, he, heq⟩ := List.mem_map.mp (hcloud router hrouter)
    have houtside := hvalid.routerExclusions e he
    rw [heq] at houtside
    have hinside : (hostPrefix router).contains router = true := hostPrefix_contains.mpr rfl
    exact absurd (hinside.symm.trans houtside) (by decide)

/-- What is within its limits, the protocol accepts. -/
theorem valid_of_within (hadmissible : Admissible netd endpoints routes hubs router)
    (hpublishes : Publishes netd endpoints routes hubs declaration routes' exclusions)
    (htable : 20000 ≤ netd.tableId.toNat ∧ netd.tableId.toNat ≤ 20999)
    (hmtu : 576 ≤ netd.maxInnerMtu) (hwithin : Within netd endpoints hubs router) :
    (declared netd router routes' exclusions).Valid := by
  have hcount := routes_length hadmissible hpublishes
  have hroutesMem : ∀ r ∈ routes', r ∈ routes := fun r hr => hpublishes.routesPerm.mem_iff.mp hr
  have hexclusionsMem : ∀ e ∈ exclusions, e.ipv4Prefix ∈ hubs
      ∨ ∃ address ∈ usableAddresses endpoints, hostPrefix address = e.ipv4Prefix := by
    intro e he
    have hmem := (hpublishes.excludes.mem e.ipv4Prefix).mp (List.mem_map_of_mem he)
    rwa [excluded, List.mem_append, List.mem_map] at hmem
  have hapart : ∀ p ∈ exclusions.map (·.ipv4Prefix), ∀ q ∈ exclusions.map (·.ipv4Prefix),
      p ≠ q → p.Apart q := by
    intro p hp q hq hne
    obtain ⟨e, he, rfl⟩ := List.mem_map.mp hp
    obtain ⟨e', he', rfl⟩ := List.mem_map.mp hq
    rcases hexclusionsMem e he with hhub | ⟨a, ha, heq⟩
    · rcases hexclusionsMem e' he' with hhub' | ⟨b, hb, heq'⟩
      · exact hadmissible.hubsApart _ hhub _ hhub' hne
      · rw [← heq'] at hne ⊢
        exact hwithin.cloudHubs _ hhub b hb hne
    · rw [← heq] at hne ⊢
      rcases hexclusionsMem e' he' with hhub' | ⟨b, hb, heq'⟩
      · exact (hwithin.cloudHubs _ hhub' a ha hne.symm).symm
      · rw [← heq'] at hne ⊢
        exact hostPrefix_apart fun hab => hne (by rw [hab])
  have hrouterExclusions : ∀ e ∈ exclusions, e.ipv4Prefix.contains router = false := by
    intro e he
    rcases hexclusionsMem e he with hhub | ⟨a, ha, heq⟩
    · exact hadmissible.routerHubs _ hhub
    · rw [← heq, ← Bool.not_eq_true, hostPrefix_contains]
      rintro rfl
      exact hwithin.routerCloud ha
  refine {
    table := htable
    mtu := ⟨hmtu, hwithin.mtu⟩
    routesNe := ?_
    routesLength := ?_
    exclusionsNe := hpublishes.excludes.ne
    exclusionsLength := ?_
    routesSorted := ?_
    exclusionsSorted := ?_
    defaultRoutes := ?_
    defaultExclusions := ?_
    routesApart := ?_
    exclusionsApart := hpublishes.excludes.nodup.pairwise_of_forall_ne hapart
    disjoint := ?_
    routerRoutes := fun r hr => hadmissible.routerRoutes r (hroutesMem r hr)
    routerExclusions := hrouterExclusions
    router := hwithin.routerUnicast.1
    unicast := hwithin.routerUnicast.2 }
  · refine List.ne_nil_of_length_pos ?_
    show 0 < routes'.length
    rw [hcount]
    exact hwithin.routes.1
  · show routes'.length ≤ maxRoutes
    rw [hcount]
    exact hwithin.routes.2
  · show exclusions.length ≤ maxExclusions
    rw [exclusions_length hpublishes]
    exact hwithin.exclusions
  · refine strictlySorted_of_entries (fun _ => rfl) (fun _ _ => routeName_le) ?_
      hpublishes.routesSorted ?_
    · intro r
      cases r.kind <;> decide
    · have hnodup : routes'.Nodup := hpublishes.routesPerm.nodup_iff.mpr hadmissible.routesNodup
      refine List.Pairwise.imp (fun {a b} hne => ?_) hnodup
      by_contra hsame
      rw [not_or, not_not, not_not] at hsame
      refine hne ?_
      rcases a with ⟨p, kind⟩
      rcases b with ⟨q, kind'⟩
      have hkind : kind = kind' := by
        revert hsame
        cases kind <;> cases kind' <;> simp [RouteKind.code]
      rw [show p = q from hsame.1, hkind]
  · refine strictlySorted_of_entries (fun _ => rfl) (fun _ _ => underlayName_le) ?_
      hpublishes.exclusionsSorted ?_
    · intro e
      cases e.kind <;> decide
    · have hnodup := hpublishes.excludes.nodup
      unfold List.Nodup at hnodup
      rw [List.pairwise_map] at hnodup
      exact hnodup.imp fun hne => .inl hne
  · -- The default route contains the router, as every other address.
    intro r hr hzero
    by_contra hkind
    have houtside := hadmissible.routerRoutes r (hroutesMem r hr) hkind
    have hcanonical := hadmissible.routesCanonical r (hroutesMem r hr)
    rw [contains_of_prefixLen_zero hcanonical hzero] at houtside
    cases houtside
  · intro e he hzero
    have houtside := hrouterExclusions e he
    rw [contains_of_prefixLen_zero (hpublishes.excludes.canonical e he) hzero] at houtside
    cases houtside
  · have hperm := (hpublishes.routesPerm.filter (·.kind != .remoteEgress)).map (·.ipv4Prefix)
    exact (hperm.pairwise_iff fun h => h.symm).mpr hadmissible.routesApart
  · intro r hr hkind e he
    rcases hexclusionsMem e he with hhub | ⟨a, ha, heq⟩
    · exact hadmissible.hubsDisjoint r (hroutesMem r hr) hkind _ hhub
    · rw [← heq]
      exact hadmissible.cloudDisjoint r (hroutesMem r hr) hkind a ha

end Limits

/-- What the synchronizer publishes for an admissible report is accepted exactly if the report is
within the limits of the protocol. -/
theorem declaration_accepted_iff (isSocketAddr : String → Bool) (report : DiscoveredControlReport)
    (configuration : RuntimeConfiguration) (identity : DeviceIdentity) (endpoints : List SocketAddr)
    (routes : List RouteDeclaration) (hubs : List Ipv4Prefix) (router : UInt32)
    (size : NetdDeclaration → ℕ) (declaration : NetdDeclaration) (hsize : Compact size)
    (hreport : validateDiscoveredControl isSocketAddr report configuration identity = .ok ())
    (hadmissible : Admissible report.netd endpoints routes hubs router)
    (hbuild : buildNetdDeclaration report endpoints = .ok declaration) :
    Accepted size declaration ↔ Within report.netd endpoints hubs router := by
  obtain ⟨routes', exclusions, hpublishes⟩ := publishes_of_build hadmissible hbuild
  constructor
  · rintro ⟨d, hparse, _⟩
    rw [parseDeclaration_eq_ok_iff hadmissible hpublishes] at hparse
    obtain ⟨_, _, rfl, hvalidate⟩ := hparse
    exact within_of_valid hadmissible hpublishes
      ((PrepareDeclaration.validate_eq_ok_iff _).mp hvalidate)
  · intro hwithin
    obtain ⟨htable, hmtu⟩ := bound_of_validate hreport
    have hvalid := valid_of_within hadmissible hpublishes htable hmtu hwithin
    have hvalidate := (PrepareDeclaration.validate_eq_ok_iff _).mpr hvalid
    have hrouter : parseAddress declaration.overlayRouterIpv4.toList = some router := by
      rw [hpublishes.router]
      exact hadmissible.routerText
    have hle : size declaration ≤ maxDeclarationBytes := (hsize.le _).trans
      (utf8Length_json_le hpublishes.routesEq hvalid.routesLength hpublishes.exclusionsEq
        hvalid.exclusionsLength hrouter)
    refine ⟨declared report.netd router routes' exclusions,
      (parseDeclaration_eq_ok_iff hadmissible hpublishes _ _).mpr ⟨hsize.pos _, hle, rfl, hvalidate⟩,
      ?_⟩
    intro request hdeclares hid howner
    have hrequest : request.validate = .ok () := by
      have hoperation : request.operation.validate = .ok () := by
        rcases hdeclares with hop | hop | hop
        · rw [hop]; exact hvalidate
        · rw [hop]; exact hvalidate
        · rw [hop]; exact hvalidate
      have hidValid : (request.requestId == 0) = false := beq_eq_false_iff_ne.mpr hid
      unfold NetdRequest.validate
      rw [hidValid, howner, hoperation]
      rfl
    have hencode := NetdRequest.encode_of_validate hdeclares hrequest
    obtain ⟨_, _, hframe, _⟩ := NetdRequest.encode_eq_ok hencode
    refine ⟨request.frame, hencode, ?_⟩
    rw [ensureFrame, refuseIf_eq_ok, Bool.or_eq_false_iff, decide_eq_false_iff_not] at hframe
    exact Nat.not_lt.mp hframe.2

namespace Site

/-! ### A site

The site has a local prefix, a route to another site and the way out to the internet through a third
one. It has one hub, and its Cloud has one address. -/

def configuration : RuntimeConfiguration where
  projectionId := "11111111111111111111111111111111"
  segmentId := "22222222222222222222222222222222"
  attachmentId := "33333333333333333333333333333333"
  segmentGeneration := 4
  projectionGeneration := 7
  projectionContentHash := "4444444444444444444444444444444444444444444444444444444444444444"

def identity : DeviceIdentity where
  tenantId := some "55555555555555555555555555555555"
  siteId := some "66666666666666666666666666666666"
  deviceId := "77777777777777777777777777777777"
  deviceKeyId := "88888888888888888888888888888888"

/-- The report of Core, with this MTU. -/
def report (mtu : UInt16) : DiscoveredControlReport where
  schemaVersion := 1
  isOk := true
  tenantId := "55555555555555555555555555555555"
  segmentId := "22222222222222222222222222222222"
  siteId := "66666666666666666666666666666666"
  attachmentId := "33333333333333333333333333333333"
  deviceId := "77777777777777777777777777777777"
  deviceKeyId := "88888888888888888888888888888888"
  segmentGeneration := 4
  projectionGeneration := 7
  routePolicy := ⟨configuration.projectionId, 7, configuration.projectionContentHash⟩
  netd := {
    tableId := 20001
    overlayRouterIpv4 := "100.96.0.1"
    maxInnerMtu := mtu
    localPrefixes := ["10.1.0.0/24"]
    remoteRoutes := [⟨"10.2.0.0/24", "remote"⟩, ⟨"0.0.0.0/0", "remote-egress"⟩]
    underlayIpv4Exclusions := ["198.51.100.7/32"] }
  outboundCandidates := []
  inboundExpected := []

/-- 203.0.113.9:443. -/
def endpoints : List SocketAddr := [.v4 0xcb007109 443]

def routes : List RouteDeclaration :=
  [⟨⟨0x0a010000, 24⟩, .localSite⟩, ⟨⟨0x0a020000, 24⟩, .remote⟩, ⟨⟨0, 0⟩, .remoteEgress⟩]

/-- 198.51.100.7/32. -/
def hubs : List Ipv4Prefix := [⟨0xc6336407, 32⟩]

/-- 100.96.0.1. -/
def router : UInt32 := 0x64600001

theorem usableAddresses_endpoints : usableAddresses endpoints = [0xcb007109] := by decide

theorem admissible (mtu : UInt16) : Admissible (report mtu).netd endpoints routes hubs router where
  routesText := by
    show (report 576).netd.routes = _
    decide
  hubsText := by
    show (report 576).netd.underlayIpv4Exclusions = _
    decide
  routerText := by
    show parseAddress (report 576).netd.overlayRouterIpv4.toList = _
    decide
  routesCanonical := by decide
  hubsCanonical := by decide
  routesNodup := by decide
  routesApart := by
    rw [← hasPrefixOverlap_eq_false_iff]
    decide
  hubsApart := by decide
  hubsDisjoint := by decide
  cloudDisjoint := by
    simp only [usableAddresses_endpoints, List.mem_singleton, forall_eq]
    decide
  routerRoutes := by decide
  routerHubs := by decide

/-- The file that the synchronizer publishes for the report with this MTU. -/
def declaration (mtu : UInt16) : NetdDeclaration where
  tableId := 20001
  overlayRouterIpv4 := "100.96.0.1"
  effectiveMtu := mtu
  routes := [⟨"0.0.0.0/0", "remote-egress"⟩, ⟨"10.1.0.0/24", "local"⟩, ⟨"10.2.0.0/24", "remote"⟩]
  exclusions := [⟨"198.51.100.7/32", "hub-endpoint"⟩, ⟨"203.0.113.9/32", "cloud-api"⟩]
  firewall := ⟨true, true, true, true⟩

/-- Exactly the compact file. -/
def size (d : NetdDeclaration) : ℕ := utf8Length d.json

theorem size_compact : Compact size := ⟨utf8Length_json_pos, fun _ => Nat.le_refl _⟩

end Site

/-- With an MTU of 1380 bytes the declaration of the site is accepted. -/
theorem site_declaration_accepted : Accepted Site.size (Site.declaration 1380) := by
  refine (declaration_accepted_iff (fun _ => false) (Site.report 1380) Site.configuration
    Site.identity Site.endpoints Site.routes Site.hubs Site.router Site.size (Site.declaration 1380)
    Site.size_compact (by decide) (Site.admissible 1380) (by decide)).mpr ?_
  exact {
    mtu := by decide
    routes := by decide
    exclusions := by decide
    cloudHubs := by
      simp only [Site.usableAddresses_endpoints, List.mem_singleton, forall_eq]
      decide
    routerCloud := by decide
    routerUnicast := by decide }

/-- With an MTU of 1500 bytes, which the synchronizer takes, the agent refuses the declaration. -/
theorem site_declaration_refused :
    ¬ ∀ (isSocketAddr : String → Bool) (report : DiscoveredControlReport)
      (configuration : RuntimeConfiguration) (identity : DeviceIdentity)
      (endpoints : List SocketAddr) (routes : List RouteDeclaration) (hubs : List Ipv4Prefix)
      (router : UInt32) (size : NetdDeclaration → ℕ) (declaration : NetdDeclaration), Compact size →
      validateDiscoveredControl isSocketAddr report configuration identity = .ok () →
      Admissible report.netd endpoints routes hubs router →
      buildNetdDeclaration report endpoints = .ok declaration → Accepted size declaration := by
  intro h
  obtain ⟨d, hparse, _⟩ := h (fun _ => false) (Site.report 1500) Site.configuration Site.identity
    Site.endpoints Site.routes Site.hubs Site.router Site.size (Site.declaration 1500)
    Site.size_compact (by decide) (Site.admissible 1500) (by decide +kernel)
  have hrefused : parseDeclaration (Site.size (Site.declaration 1500)) (Site.declaration 1500)
      = .error "SD-WAN declaration failed protocol validation" := by
    decide +kernel
  rw [hrefused] at hparse
  cases hparse

end CandyRuntime.CloudSync.Declaration
