import DhcpDecoder.Option.Value

/-!
The option catalog: the tags this library knows, with their names and value layouts.
-/

namespace DhcpDecoder

structure CatalogEntry where
  code : UInt8
  name : String
  layout : Layout
  deriving Repr, Inhabited

namespace Catalog

def options : List CatalogEntry := [
  ⟨1, "SubnetMask", .ipv4⟩,
  ⟨2, "TimeOffset", .i32⟩,
  ⟨3, "Router", .ipv4List⟩,
  ⟨4, "TimeServer", .ipv4List⟩,
  ⟨5, "NameServer", .ipv4List⟩,
  ⟨6, "DomainNameServer", .ipv4List⟩,
  ⟨7, "LogServer", .ipv4List⟩,
  ⟨8, "CookieServer", .ipv4List⟩,
  ⟨9, "LPRServer", .ipv4List⟩,
  ⟨10, "ImpressServer", .ipv4List⟩,
  ⟨11, "ResourceLocationServer", .ipv4List⟩,
  ⟨12, "HostName", .text⟩,
  ⟨13, "BootFileSize", .u16⟩,
  ⟨14, "MeritDumpFile", .text⟩,
  ⟨15, "DomainName", .text⟩,
  ⟨16, "SwapServer", .ipv4⟩,
  ⟨17, "RootPath", .text⟩,
  ⟨18, "ExtensionsPath", .text⟩,
  ⟨19, "IPForwarding", .flag⟩,
  ⟨20, "NonLocalSourceRouting", .flag⟩,
  ⟨21, "PolicyFilter", .ipv4Pairs⟩,
  ⟨22, "MaxDatagramReassemblySize", .u16⟩,
  ⟨23, "DefaultIPTTL", .u8⟩,
  ⟨24, "PathMTUAgingTimeout", .u32⟩,
  ⟨25, "PathMTUPlateauTable", .u16List⟩,
  ⟨26, "InterfaceMTU", .u16⟩,
  ⟨27, "AllSubnetsAreLocal", .flag⟩,
  ⟨28, "BroadcastAddress", .ipv4⟩,
  ⟨29, "PerformMaskDiscovery", .flag⟩,
  ⟨30, "MaskSupplier", .flag⟩,
  ⟨31, "PerformRouterDiscovery", .flag⟩,
  ⟨32, "RouterSolicitationAddress", .ipv4⟩,
  ⟨33, "StaticRoute", .ipv4Pairs⟩,
  ⟨34, "TrailerEncapsulation", .flag⟩,
  ⟨35, "ARPCacheTimeout", .u32⟩,
  ⟨36, "EthernetEncapsulation", .flag⟩,
  ⟨37, "TCPDefaultTTL", .u8⟩,
  ⟨38, "TCPKeepaliveInterval", .u32⟩,
  ⟨39, "TCPKeepaliveGarbage", .flag⟩,
  ⟨40, "NISDomain", .text⟩,
  ⟨41, "NISServers", .ipv4List⟩,
  ⟨42, "NTPServers", .ipv4List⟩,
  ⟨43, "VendorSpecific", .blob⟩,
  ⟨44, "NetBIOSNameServers", .ipv4List⟩,
  ⟨45, "NetBIOSDatagramDistributor", .ipv4List⟩,
  ⟨46, "NetBIOSNodeType", .nodeType⟩,
  ⟨47, "NetBIOSScope", .text⟩,
  ⟨48, "XFontServer", .ipv4List⟩,
  ⟨49, "XDisplayManager", .ipv4List⟩,
  ⟨50, "RequestedIPAddress", .ipv4⟩,
  ⟨51, "IPAddressLeaseTime", .u32⟩,
  ⟨52, "OptionOverload", .overload⟩,
  ⟨53, "MessageType", .messageType⟩,
  ⟨54, "ServerIdentifier", .ipv4⟩,
  ⟨55, "ParamRequestList", .codeList⟩,
  ⟨56, "Message", .text⟩,
  ⟨57, "MaxMessageSize", .u16⟩,
  ⟨58, "RenewalTime", .u32⟩,
  ⟨59, "RebindingTime", .u32⟩,
  ⟨60, "ClassIdentifier", .text⟩,
  ⟨61, "ClientIdentifier", .blob⟩,
  ⟨66, "TFTPServerName", .text⟩,
  ⟨67, "BootFileName", .text⟩,
  ⟨82, "RelayAgentInformation", .relay⟩]

def relay : List CatalogEntry := [
  ⟨1, "AgentCircuitID", .blob⟩,
  ⟨2, "AgentRemoteID", .blob⟩,
  ⟨4, "DOCSISDeviceClass", .i32⟩,
  ⟨5, "LinkSelection", .ipv4⟩,
  ⟨6, "SubscriberID", .text⟩,
  ⟨7, "RADIUSAttributes", .blob⟩,
  ⟨8, "Authentication", .blob⟩,
  ⟨9, "VendorSpecificInformation", .blob⟩,
  ⟨10, "RelayAgentFlags", .u8⟩,
  ⟨11, "ServerIdentifierOverride", .i32⟩,
  ⟨151, "VirtualSubnetSelection", .blob⟩,
  ⟨152, "VirtualSubnetSelectionControl", .blob⟩]

def option? (code : UInt8) : Option CatalogEntry :=
  options.find? (·.code == code)

def relay? (code : UInt8) : Option CatalogEntry :=
  relay.find? (·.code == code)

def optionName (code : UInt8) : String :=
  match option? code with
  | some e => e.name
  | none =>
    if code = 0 then "Pad" else if code = 255 then "End"
    else "Unknown(" ++ toString code.toNat ++ ")"

def relayName (code : UInt8) : String :=
  match relay? code with
  | some e => e.name
  | none => "Unknown(" ++ toString code.toNat ++ ")"

def listingJson (entries : List (UInt8 × String × String)) : Json :=
  .arr (entries.map fun e =>
    .obj [("code", .num e.1.toNat), ("name", .str e.2.1), ("shape", .str e.2.2)])

def optionListing : List (UInt8 × String × String) :=
  ((0, "Pad", "sentinel") :: options.map (fun e => (e.code, e.name, e.layout.shape)))
    ++ [(255, "End", "sentinel")]

def relayListing : List (UInt8 × String × String) :=
  relay.map fun e => (e.code, e.name, e.layout.shape)

theorem option?_pad : option? 0 = none := by decide
theorem option?_end : option? 255 = none := by decide

end Catalog

end DhcpDecoder
