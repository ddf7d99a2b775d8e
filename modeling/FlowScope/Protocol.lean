/-!
# Protocols

What a flow may be found to carry. Each protocol has a display name (`HTTP`) and a tag (`Http`), which
stands for it in stored records.
-/

namespace FlowScope

/-- The application protocols that can be reported. -/
inductive Protocol
  | unknown | http | dns | ssh | rpc | smtp | rdp | smb | icmp | ftp | ssl | netBios | jabber | mqtt
  | bitTorrent
  deriving Repr, DecidableEq, Inhabited

namespace Protocol

/-- Every protocol, in the order in which listings show them. -/
def all : List Protocol :=
  [unknown, http, dns, ssh, rpc, smtp, rdp, smb, icmp, ftp, ssl, netBios, jabber, mqtt, bitTorrent]

/-- The display name. -/
def name : Protocol → String
  | unknown => "Unknown"
  | http => "HTTP"
  | dns => "DNS"
  | ssh => "SSH"
  | rpc => "RPC"
  | smtp => "SMTP"
  | rdp => "RDP"
  | smb => "SMB"
  | icmp => "ICMP"
  | ftp => "FTP"
  | ssl => "SSL"
  | netBios => "NetBIOS"
  | jabber => "JABBER"
  | mqtt => "MQTT"
  | bitTorrent => "BitTorrent"

/-- The tag used in records. -/
def tag : Protocol → String
  | unknown => "Unknown"
  | http => "Http"
  | dns => "Dns"
  | ssh => "Ssh"
  | rpc => "Rpc"
  | smtp => "Smtp"
  | rdp => "Rdp"
  | smb => "Smb"
  | icmp => "Icmp"
  | ftp => "Ftp"
  | ssl => "Ssl"
  | netBios => "NetBios"
  | jabber => "Jabber"
  | mqtt => "Mqtt"
  | bitTorrent => "BitTorrent"

/-- The protocol with a display name; case matters. -/
def ofName? (text : String) : Option Protocol := all.find? (·.name = text)

/-- The protocol with a tag; case matters. -/
def ofTag? (text : String) : Option Protocol := all.find? (·.tag = text)

/-- What is said of a name that is no protocol's. -/
def noSuchName : String := "Matching variant not found"

theorem mem_all (p : Protocol) : p ∈ all := by cases p <;> simp [all]

def isUnknown (p : Protocol) : Bool := p = unknown

end Protocol

end FlowScope
