/-!
# Namespaces of schema modules

A qualified key `module:tag` names an element in the namespace of its module.
-/

namespace GateRollout.Markup

/-- The namespace of every known module.  The bridge augmentation lives in the namespace of the
scheduler. -/
def moduleNamespaces : List (String × String) :=
  [("iana-crypt-hash", "urn:ietf:params:xml:ns:yang:iana-crypt-hash"),
    ("iana-hardware", "urn:ietf:params:xml:ns:yang:iana-hardware"),
    ("iana-if-type", "urn:ietf:params:xml:ns:yang:iana-if-type"),
    ("ieee1588-ptp-tt", "urn:ieee:std:1588:yang:ieee1588-ptp-tt"),
    ("ieee802-dot1ab-types", "urn:ieee:std:802.1Q:yang:ieee802-dot1ab-types"),
    ("ieee802-dot1as-gptp", "urn:ieee:std:802.1AS:yang:ieee802-dot1as-gptp"),
    ("ieee802-dot1as-hs", "urn:ieee:std:802.1AS:yang:ieee802-dot1as-hs"),
    ("ieee802-dot1dc-sched-if", "urn:ieee:std:802.1Q:yang:ieee802-dot1dc-sched-if"),
    ("ieee802-dot1q-bridge", "urn:ieee:std:802.1Q:yang:ieee802-dot1q-bridge"),
    ("ieee802-dot1q-sched", "urn:ieee:std:802.1Q:yang:ieee802-dot1q-sched"),
    ("ieee802-dot1q-sched-bridge", "urn:ieee:std:802.1Q:yang:ieee802-dot1q-sched"),
    ("ieee802-dot1q-stream-filters-gates",
      "urn:ieee:std:802.1Q:yang:ieee802-dot1q-stream-filters-gates"),
    ("ieee802-dot1q-types", "urn:ieee:std:802.1Q:yang:ieee802-dot1q-types"),
    ("ieee802-ethernet-interface", "urn:ieee:std:802.3:yang:ieee802-ethernet-interface"),
    ("ieee802-types", "urn:ieee:std:802.1Q:yang:ieee802-types"),
    ("iecieee60802-ethernet-interface", "urn:ieee:std:60802:yang:iecieee60802-ethernet-interface"),
    ("ietf-datastores", "urn:ietf:params:xml:ns:yang:ietf-datastores"),
    ("ietf-inet-types", "urn:ietf:params:xml:ns:yang:ietf-inet-types"),
    ("ietf-interfaces", "urn:ietf:params:xml:ns:yang:ietf-interfaces"),
    ("ietf-ip", "urn:ietf:params:xml:ns:yang:ietf-ip"),
    ("ietf-netconf-monitoring", "urn:ietf:params:xml:ns:yang:ietf-netconf-monitoring"),
    ("ietf-restconf", "urn:ietf:params:xml:ns:yang:ietf-restconf"),
    ("ietf-routing", "urn:ietf:params:xml:ns:yang:ietf-routing"),
    ("ietf-x509-cert-to-name", "urn:ietf:params:xml:ns:yang:ietf-x509-cert-to-name"),
    ("ietf-yang-patch", "urn:ietf:params:xml:ns:yang:ietf-yang-patch"),
    ("ietf-yang-schema-mount", "urn:ietf:params:xml:ns:yang:ietf-yang-schema-mount"),
    ("ietf-yang-types", "urn:ietf:params:xml:ns:yang:ietf-yang-types")]

/-- The namespace of a module. -/
def namespaceOf? (module : String) : Option String :=
  (moduleNamespaces.find? (·.1 == module)).map (·.2)

/-- The name of an element: its tag and the namespace it declares. -/
structure Name where
  tag : String
  uri : Option String
  deriving Repr, DecidableEq

/-- The part of a text after its first colon, when it has one, and the part before. -/
def splitColon? (s : List Char) : Option (List Char × List Char) :=
  match s.dropWhile (· != ':') with
  | [] => none
  | _ :: rest => some (s.takeWhile (· != ':'), rest)

/-- The element that a key names.  The module of a qualified key is dropped even when it is unknown,
so that the tag stays a valid element name. -/
def Name.ofKey (key : String) : Name :=
  match splitColon? key.toList with
  | none => ⟨key, none⟩
  | some (module, tag) => ⟨String.ofList tag, namespaceOf? (String.ofList module)⟩

/-- What stands between the brackets of the opening tag. -/
def Name.opening (n : Name) : String :=
  match n.uri with
  | none => n.tag
  | some uri => n.tag ++ " xmlns=\"" ++ uri ++ "\""

end GateRollout.Markup
