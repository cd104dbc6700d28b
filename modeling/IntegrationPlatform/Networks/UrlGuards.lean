import IntegrationPlatform.Json.Value
import IntegrationPlatform.Networks.Regions

/-!
# The guards against requests to internal hosts

`_is_url_safe` of the credential validator blocks the addresses of a list of networks, `_is_safe_url` of the
gateway those that the module `ipaddress` calls private, loopback, link-local or reserved.
`guards_agree_iff` says for which hosts the first one accepts nothing that it should not.
-/

namespace IntegrationPlatform

namespace UrlGuards

/-! ## Addresses -/

/-- An address, of version 4 or 6. -/
inductive Address where
  | v4 (ip : BitVec 32)
  | v6 (ip : BitVec 128)

def ipv4Mapped (ip : BitVec 128) : Option (BitVec 32) :=
  if ip.toNat / 2 ^ 32 = 0xffff then some (BitVec.ofNat 32 ip.toNat) else none

/-- The address that an address stands for. -/
def Address.unmapped : Address → Address
  | .v4 ip => .v4 ip
  | .v6 ip =>
      match ipv4Mapped ip with
      | some mapped => .v4 mapped
      | none => .v6 ip

/-- The number of an address of version 4 in its four bytes. -/
def ip4 (first second third fourth : Nat) : Nat :=
  ((first * 256 + second) * 256 + third) * 256 + fourth

/-- The number of an address of version 6 that begins with these groups of 16 bits. -/
def ip6 (groups : List Nat) : Nat :=
  groups.foldl (fun number group => number * 65536 + group) 0 * 65536 ^ (8 - groups.length)

/-- A network of version 4. -/
def net4 (first second third fourth length : Nat) : NatRegion :=
  NatRegion.block (ip4 first second third fourth) (32 - length)

/-- A network of version 6. -/
def net6 (groups : List Nat) (length : Nat) : NatRegion :=
  NatRegion.block (ip6 groups) (128 - length)

/-! ## The module `ipaddress` -/

/-- `_IPv4Constants._private_networks`. -/
def privateNetworks4 : List NatRegion :=
  [net4 0 0 0 0 8, net4 10 0 0 0 8, net4 127 0 0 0 8, net4 169 254 0 0 16, net4 172 16 0 0 12,
    net4 192 0 0 0 24, net4 192 0 0 170 31, net4 192 0 2 0 24, net4 192 168 0 0 16, net4 198 18 0 0 15,
    net4 198 51 100 0 24, net4 203 0 113 0 24, net4 240 0 0 0 4, net4 255 255 255 255 32]

/-- `_IPv4Constants._private_networks_exceptions`. -/
def privateExceptions4 : List NatRegion :=
  [net4 192 0 0 9 32, net4 192 0 0 10 32]

/-- `_IPv6Constants._private_networks`. -/
def privateNetworks6 : List NatRegion :=
  [net6 [0, 0, 0, 0, 0, 0, 0, 1] 128, net6 [0] 128, net6 [0, 0, 0, 0, 0, 0xffff] 96,
    net6 [0x64, 0xff9b, 1] 48, net6 [0x100] 64, net6 [0x2001] 23, net6 [0x2001, 0xdb8] 32,
    net6 [0x2002] 16, net6 [0x3fff] 20, net6 [0xfc00] 7, net6 [0xfe80] 10]

/-- `_IPv6Constants._private_networks_exceptions`. -/
def privateExceptions6 : List NatRegion :=
  [net6 [0x2001, 1, 0, 0, 0, 0, 0, 1] 128, net6 [0x2001, 1, 0, 0, 0, 0, 0, 2] 128,
    net6 [0x2001, 3] 32, net6 [0x2001, 4, 0x112] 48, net6 [0x2001, 0x20] 28, net6 [0x2001, 0x30] 28]

/-- `_IPv6Constants._reserved_networks`. -/
def reservedNetworks6 : List NatRegion :=
  [net6 [0] 8, net6 [0x100] 8, net6 [0x200] 7, net6 [0x400] 6, net6 [0x800] 5, net6 [0x1000] 4,
    net6 [0x4000] 3, net6 [0x6000] 3, net6 [0x8000] 3, net6 [0xa000] 3, net6 [0xc000] 3,
    net6 [0xe000] 4, net6 [0xf000] 5, net6 [0xf800] 6, net6 [0xfe00] 9]

/-- The private addresses of version 4. -/
def private4 : NatRegion :=
  (NatRegion.unions privateNetworks4).without (NatRegion.unions privateExceptions4)

/-- The private addresses of version 6 that stand for none of version 4. -/
def private6 : NatRegion :=
  (NatRegion.unions privateNetworks6).without (NatRegion.unions privateExceptions6)

namespace Address

def isPrivate (address : Address) : Bool :=
  match address.unmapped with
  | .v4 ip => private4.contains ip.toNat
  | .v6 ip => private6.contains ip.toNat

def isLoopback : Address → Bool
  | .v4 ip => (net4 127 0 0 0 8).contains ip.toNat
  | .v6 ip => (net6 [0, 0, 0, 0, 0, 0, 0, 1] 128).contains ip.toNat

def isLinkLocal : Address → Bool
  | .v4 ip => (net4 169 254 0 0 16).contains ip.toNat
  | .v6 ip => (net6 [0xfe80] 10).contains ip.toNat

def isUnspecified : Address → Bool
  | .v4 ip => (net4 0 0 0 0 32).contains ip.toNat
  | .v6 ip => (net6 [0] 128).contains ip.toNat

def isReserved : Address → Bool
  | .v4 ip => (net4 240 0 0 0 4).contains ip.toNat
  | .v6 ip => (NatRegion.unions reservedNetworks6).contains ip.toNat

/-- What a property other than `is_private` is asked of: since one of the releases of Python it is the
address that an address stands for. -/
def seen (unmaps : Bool) (address : Address) : Address :=
  if unmaps then address.unmapped else address

/-- The address is one of those that no request is to go to, as the address that it stands for. -/
def special (address : Address) : Bool :=
  address.isPrivate || address.unmapped.isLoopback || address.unmapped.isLinkLocal ||
    address.unmapped.isUnspecified || address.unmapped.isReserved

end Address

/-! ## The guards -/

/-- A network of one of the versions. -/
inductive Network where
  | four (region : NatRegion)
  | six (region : NatRegion)

/-- `address in network`: no address is in a network of the other version. -/
def Network.contains : Network → Address → Bool
  | .four region, .v4 ip => region.contains ip.toNat
  | .six region, .v6 ip => region.contains ip.toNat
  | _, _ => false

def blockedNetworks : List Network :=
  [.four (net4 10 0 0 0 8), .four (net4 172 16 0 0 12), .four (net4 192 168 0 0 16),
    .four (net4 127 0 0 0 8), .four (net4 169 254 0 0 16),
    .six (net6 [0, 0, 0, 0, 0, 0, 0, 1] 128), .six (net6 [0xfc00] 7), .six (net6 [0xfe80] 10)]

/-- An address is in one of the blocked networks. -/
def isBlocked (address : Address) : Bool :=
  blockedNetworks.any fun network => network.contains address

/-- What is read of `urlparse(url)`. -/
structure ParsedUrl where
  scheme : String
  hostname : Option String

/-- What the guards use: `urlparse`, which may raise a `ValueError`, `getaddrinfo`, which may raise a
`gaierror`, and whether the properties of addresses see through those that stand for others. -/
structure World where
  urlparse : String → Option ParsedUrl
  getaddrinfo : String → Option (List Address)
  unmaps : Bool

/-- The guard of the gateway refuses an address. -/
def gatewayBlocks (unmaps : Bool) (address : Address) : Bool :=
  address.isPrivate || (address.seen unmaps).isLoopback || (address.seen unmaps).isLinkLocal ||
    (address.seen unmaps).isReserved

namespace World

variable (world : World)

/-- `_is_url_safe` of the credential validator. -/
def isUrlSafe (url : String) : Bool :=
  match world.urlparse url with
  | none => false
  | some parsed =>
      match nonempty parsed.hostname with
      | none => false
      | some hostname =>
          if hostname = "localhost" ∨ hostname = "metadata.google.internal" then false
          else
            match world.getaddrinfo hostname with
            | none => false
            | some addresses => !addresses.any isBlocked

/-- `_is_safe_url` of the gateway. -/
def isSafeUrl (url : String) : Bool :=
  match world.urlparse url with
  | none => false
  | some parsed =>
      if parsed.scheme ≠ "http" ∧ parsed.scheme ≠ "https" then false
      else
        match nonempty parsed.hostname with
        | none => false
        | some hostname =>
            match world.getaddrinfo hostname with
            | none => false
            | some addresses => !addresses.any (gatewayBlocks world.unmaps)

/-- The addresses that the host name of a URL resolves to, if it has one that does. -/
def addressesOf (url : String) : Option (List Address) :=
  (world.urlparse url).bind fun parsed => (nonempty parsed.hostname).bind world.getaddrinfo

/-- The guards agree on a URL: the validator accepts it only if none of the addresses of its host is special,
and only if the gateway accepts it. -/
def GuardsAgree (url : String) : Prop :=
  world.isUrlSafe url = true →
    (∀ addresses, world.addressesOf url = some addresses →
      ∀ address ∈ addresses, address.special = false) ∧
    world.isSafeUrl url = true

end World

/-! ## The gap between them -/

/-- The special addresses of version 4 that are not blocked. -/
def gap4 : NatRegion :=
  NatRegion.unions [net4 0 0 0 0 8,
    (net4 192 0 0 0 24).without (NatRegion.interval (ip4 192 0 0 9) (ip4 192 0 0 11)),
    net4 192 0 2 0 24, net4 198 18 0 0 15, net4 198 51 100 0 24, net4 203 0 113 0 24, net4 240 0 0 0 4]

/-- The blocked addresses of version 4. -/
def blocked4 : NatRegion :=
  NatRegion.unions [net4 10 0 0 0 8, net4 172 16 0 0 12, net4 192 168 0 0 16, net4 127 0 0 0 8,
    net4 169 254 0 0 16]

/-- The blocked addresses of version 6. -/
def blocked6 : NatRegion :=
  NatRegion.unions [net6 [0, 0, 0, 0, 0, 0, 0, 1] 128, net6 [0xfc00] 7, net6 [0xfe80] 10]

/-- The special addresses of version 6 that are not blocked, apart from those that stand for addresses of
version 4: all below `2000::` but `::1`, all from `4000::` up to `fc00::`, and `fe00::/9`, which are reserved,
and four networks that are private, one of them with exceptions. -/
def gap6 : NatRegion :=
  NatRegion.unions [(net6 [0] 3).without (net6 [0, 0, 0, 0, 0, 0, 0, 1] 128),
    NatRegion.interval (ip6 [0x4000]) (ip6 [0xfc00]), net6 [0xfe00] 9,
    (net6 [0x2001] 23).without (NatRegion.unions privateExceptions6), net6 [0x2001, 0xdb8] 32,
    net6 [0x2002] 16, net6 [0x3fff] 20]

/-- The addresses that only one of the guards refuses. One that stands for an address of version 4 is never
blocked by the validator. -/
def inGap (unmaps : Bool) : Address → Bool
  | .v4 ip => gap4.contains ip.toNat
  | .v6 ip =>
      match ipv4Mapped ip with
      | some mapped => blocked4.contains mapped.toNat || gap4.contains mapped.toNat || !unmaps
      | none => gap6.contains ip.toNat

/-- The special addresses of version 4. -/
def special4 : NatRegion :=
  NatRegion.unions [private4, net4 127 0 0 0 8, net4 169 254 0 0 16, net4 0 0 0 0 32, net4 240 0 0 0 4]

/-- The special addresses of version 6. -/
def special6 : NatRegion :=
  NatRegion.unions [private6, net6 [0, 0, 0, 0, 0, 0, 0, 1] 128, net6 [0xfe80] 10, net6 [0] 128,
    NatRegion.unions reservedNetworks6]

theorem special4_agree : special4.agree (blocked4.union gap4) = true := by
  decide +kernel

theorem special6_agree : special6.agree (blocked6.union gap6) = true := by
  decide +kernel

/-! ## Addresses one by one -/

theorem special_v4 (ip : BitVec 32) :
    (Address.v4 ip).special = (blocked4.contains ip.toNat || gap4.contains ip.toNat) := by
  have h := NatRegion.contains_eq_iff.mpr special4_agree ip.toNat
  rw [NatRegion.contains, special4, NatRegion.contains_unions] at h
  rw [← h]
  simp [Address.special, Address.isPrivate, Address.unmapped, Address.isLoopback, Address.isLinkLocal,
    Address.isUnspecified, Address.isReserved, Bool.or_assoc]

variable {ip : BitVec 128}

theorem special_v6 (hmapped : ipv4Mapped ip = none) :
    (Address.v6 ip).special = (blocked6.contains ip.toNat || gap6.contains ip.toNat) := by
  have h := NatRegion.contains_eq_iff.mpr special6_agree ip.toNat
  rw [NatRegion.contains, special6, NatRegion.contains_unions] at h
  rw [← h]
  simp [Address.special, Address.isPrivate, Address.unmapped, hmapped, Address.isLoopback,
    Address.isLinkLocal, Address.isUnspecified, Address.isReserved, Bool.or_assoc]

theorem isBlocked_v4 (ip : BitVec 32) : isBlocked (.v4 ip) = blocked4.contains ip.toNat := by
  simp [isBlocked, blockedNetworks, Network.contains, blocked4, NatRegion.contains_unions]

theorem isBlocked_v6 (ip : BitVec 128) : isBlocked (.v6 ip) = blocked6.contains ip.toNat := by
  simp [isBlocked, blockedNetworks, Network.contains, blocked6, NatRegion.contains_unions]

theorem special_unmapped {mapped : BitVec 32} (hmapped : ipv4Mapped ip = some mapped) :
    (Address.v6 ip).special = (Address.v4 mapped).special := by
  have hunmapped : (Address.v6 ip).unmapped = .v4 mapped := by
    rw [Address.unmapped, hmapped]
  unfold Address.special Address.isPrivate
  rw [hunmapped]
  rfl

variable {address : Address}

theorem gatewayBlocks_unmapped (h : gatewayBlocks true address = true) :
    address.special = true := by
  unfold gatewayBlocks Address.seen at h
  unfold Address.special
  simp only [if_true, Bool.or_eq_true] at h ⊢
  tauto

theorem gatewayBlocks_congr (h : address.unmapped = address) (unmaps : Bool) :
    gatewayBlocks unmaps address = gatewayBlocks true address := by
  unfold gatewayBlocks Address.seen
  rw [h]
  cases unmaps <;> rfl

theorem reserved_of_mapped {mapped : BitVec 32} (hmapped : ipv4Mapped ip = some mapped) :
    (Address.v6 ip).isReserved = true := by
  unfold ipv4Mapped at hmapped
  split at hmapped
  · next hgroup =>
    have hlt : ip.toNat < 2 ^ 120 := by omega
    have hblock : (net6 [0] 8).contains ip.toNat = true := by
      show (decide (0 ≤ ip.toNat) && decide (ip.toNat < 0 + 2 ^ 120)) = true
      simpa using hlt
    rw [Address.isReserved, NatRegion.contains_unions]
    exact List.any_eq_true.mpr ⟨_, List.mem_cons_self, hblock⟩
  · cases hmapped

/-- Of the addresses that the validator does not block, those in the gap are special, or the gateway refuses
them. -/
theorem inGap_eq (unmaps : Bool) (h : isBlocked address = false) :
    inGap unmaps address = (address.special || gatewayBlocks unmaps address) := by
  cases address with
  | v4 ip =>
      have hgateway : gatewayBlocks unmaps (.v4 ip) = true → (Address.v4 ip).special = true := by
        rw [gatewayBlocks_congr rfl]
        exact gatewayBlocks_unmapped
      rw [isBlocked_v4] at h
      rw [special_v4, h, Bool.false_or] at hgateway ⊢
      rw [inGap]
      cases hgap : gap4.contains ip.toNat <;> simp_all
  | v6 ip =>
      rw [isBlocked_v6] at h
      cases hmapped : ipv4Mapped ip with
      | none =>
          have hgateway : gatewayBlocks unmaps (.v6 ip) = true → (Address.v6 ip).special = true := by
            rw [gatewayBlocks_congr (by rw [Address.unmapped, hmapped])]
            exact gatewayBlocks_unmapped
          rw [special_v6 hmapped, h, Bool.false_or] at hgateway ⊢
          simp only [inGap, hmapped]
          cases hgap : gap6.contains ip.toNat <;> simp_all
      | some mapped =>
          simp only [inGap, hmapped]
          rw [special_unmapped hmapped, special_v4]
          cases unmaps with
          | true =>
              have hgateway : gatewayBlocks true (.v6 ip) = true → (Address.v4 mapped).special = true := by
                rw [← special_unmapped hmapped]
                exact gatewayBlocks_unmapped
              rw [special_v4] at hgateway
              cases hspecial : blocked4.contains mapped.toNat || gap4.contains mapped.toNat <;>
                simp_all
          | false =>
              have hgateway : gatewayBlocks false (.v6 ip) = true := by
                have hreserved := reserved_of_mapped hmapped
                simp [gatewayBlocks, Address.seen, hreserved]
              simp only [hgateway, Bool.not_false, Bool.or_true]

/-! ## Hosts -/

variable {world : World} {url : String} {parsed : ParsedUrl}

theorem isUrlSafe_iff (hparsed : world.urlparse url = some parsed) :
    world.isUrlSafe url = true ↔
      parsed.hostname ≠ some "localhost" ∧ parsed.hostname ≠ some "metadata.google.internal" ∧
        ∃ addresses, world.addressesOf url = some addresses ∧
          ∀ address ∈ addresses, isBlocked address = false := by
  unfold World.isUrlSafe World.addressesOf
  rw [hparsed, Option.bind_some]
  cases hname : nonempty parsed.hostname with
  | none => simp [hname]
  | some hostname =>
      have hhostname : parsed.hostname = some hostname := (Option.filter_eq_some_iff.mp hname).1
      simp only [hname, Option.bind_some]
      simp only [hhostname, Option.some.injEq, ne_eq]
      by_cases hrefused : hostname = "localhost" ∨ hostname = "metadata.google.internal"
      · rw [if_pos hrefused]
        simp only [Bool.false_eq_true, false_iff]
        tauto
      · rw [if_neg hrefused]
        rw [not_or] at hrefused
        simp only [hrefused, not_false_eq_true, true_and]
        cases world.getaddrinfo hostname <;> simp

theorem isSafeUrl_iff (hparsed : world.urlparse url = some parsed)
    (hscheme : parsed.scheme = "http" ∨ parsed.scheme = "https") :
    world.isSafeUrl url = true ↔ ∃ addresses, world.addressesOf url = some addresses ∧
      ∀ address ∈ addresses, gatewayBlocks world.unmaps address = false := by
  have hallowed : ¬ (parsed.scheme ≠ "http" ∧ parsed.scheme ≠ "https") := by tauto
  unfold World.isSafeUrl World.addressesOf
  rw [hparsed, Option.bind_some]
  simp only [hallowed, if_false]
  cases hname : nonempty parsed.hostname with
  | none => simp
  | some hostname =>
      simp only [Option.bind_some]
      cases world.getaddrinfo hostname <;> simp

/-- **The guards agree on a URL if and only if the validator refuses the name of its host or one of its
addresses, or none of them is in the gap.** -/
theorem guards_agree_iff (world : World) (url : String) (parsed : ParsedUrl)
    (hparsed : world.urlparse url = some parsed)
    (hscheme : parsed.scheme = "http" ∨ parsed.scheme = "https") :
    world.GuardsAgree url ↔
      parsed.hostname = some "localhost" ∨ parsed.hostname = some "metadata.google.internal" ∨
      ∀ addresses, world.addressesOf url = some addresses →
        (∃ address ∈ addresses, isBlocked address = true) ∨
        ∀ address ∈ addresses, inGap world.unmaps address = false := by
  unfold World.GuardsAgree
  rw [isUrlSafe_iff hparsed, isSafeUrl_iff hparsed hscheme]
  constructor
  · intro h
    by_contra hnot
    simp only [not_or, not_forall] at hnot
    obtain ⟨hlocal, hmetadata, addresses, haddresses, hblocked, hgap⟩ := hnot
    have hopen : ∀ address ∈ addresses, isBlocked address = false := by
      intro address haddress
      by_contra hne
      exact hblocked ⟨address, haddress, by simpa using hne⟩
    obtain ⟨hspecial, other, hother, hgateway⟩ := h ⟨hlocal, hmetadata, addresses, haddresses, hopen⟩
    rw [haddresses] at hother
    obtain rfl := Option.some.inj hother
    obtain ⟨address, haddress, hne⟩ := hgap
    rw [inGap_eq _ (hopen address haddress), hspecial addresses haddresses address haddress,
      hgateway address haddress] at hne
    exact hne rfl
  · rintro h ⟨hlocal, hmetadata, addresses, haddresses, hopen⟩
    have hgap : ∀ address ∈ addresses, (address.special || gatewayBlocks world.unmaps address) = false := by
      intro address haddress
      rcases (h.resolve_left hlocal).resolve_left hmetadata addresses haddresses with
        ⟨blocked, hblocked, htrue⟩ | hnone
      · rw [hopen blocked hblocked] at htrue
        cases htrue
      · rw [← inGap_eq _ (hopen address haddress)]
        exact hnone address haddress
    refine ⟨fun other hother address haddress => ?_, addresses, haddresses, fun address haddress => ?_⟩
    · rw [haddresses] at hother
      obtain rfl := Option.some.inj hother
      exact (Bool.or_eq_false_iff.mp (hgap address haddress)).1
    · exact (Bool.or_eq_false_iff.mp (hgap address haddress)).2

/-- A world in which every URL has a host with this address. -/
def hostWorld (address : Address) : World where
  urlparse _ := some ⟨"https", some "host.example"⟩
  getaddrinfo _ := some [address]
  unmaps := true

/-- The guards agree on a host with a public address, `8.8.8.8`. -/
theorem public_host_agrees : (hostWorld (.v4 0x08080808)).GuardsAgree "https://host.example/" :=
  (guards_agree_iff (hostWorld (.v4 0x08080808)) "https://host.example/" _ rfl (.inr rfl)).mpr
    (.inr (.inr fun addresses haddresses => .inr fun address haddress => by
      obtain rfl := Option.some.inj haddresses
      obtain rfl := List.mem_singleton.mp haddress
      decide +kernel))

/-- The validator accepts a host with the unspecified address `0.0.0.0`, and one with `::ffff:127.0.0.1`. -/
theorem unspecified_host_accepted :
    ¬ (hostWorld (.v4 0)).GuardsAgree "https://host.example/" ∧
      ¬ (hostWorld (.v6 0xffff7f000001)).GuardsAgree "https://host.example/" := by
  constructor
  · intro h
    have hspecial := (h (by decide +kernel)).1 _ rfl _ (List.mem_singleton_self _)
    revert hspecial
    decide +kernel
  · intro h
    have hspecial := (h (by decide +kernel)).1 _ rfl _ (List.mem_singleton_self _)
    revert hspecial
    decide +kernel

end UrlGuards

end IntegrationPlatform
