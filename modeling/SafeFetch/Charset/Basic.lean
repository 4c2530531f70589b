import SafeFetch.Charset.CodePage.Dos
import SafeFetch.Charset.CodePage.Iso
import SafeFetch.Charset.CodePage.Macintosh
import SafeFetch.Charset.CodePage.Mainframe
import SafeFetch.Charset.CodePage.Windows
import SafeFetch.Charset.Escapes
import SafeFetch.Charset.HostName
import SafeFetch.Charset.Utf7
import SafeFetch.Charset.Wide
import SafeFetch.Platform
import SafeFetch.Text.Utf8

/-!
# Character sets

The character sets that a header may declare, how a declared label selects one, and how the bytes
of a text are read in it. Those of several bytes for a character, other than the encodings of
Unicode, are described by large tables, which are left to the platform.

A label is compared in normal form: runs of characters other than ASCII letters, digits and points
become one low line, those at the ends are dropped, and capitals become small letters.
-/

namespace SafeFetch

open SafeFetch.Text

/-- A character set. -/
inductive Charset where
  | ascii
  | latin1
  | utf8
  /-- UTF-8 that may begin with a byte order mark. -/
  | signedUtf8
  /-- UTF-16 in the given order, or in the one that a byte order mark tells. -/
  | utf16 (order : Option Charset.ByteOrder)
  /-- UTF-32 in the given order, or in the one that a byte order mark tells. -/
  | utf32 (order : Option Charset.ByteOrder)
  | utf7
  | punycode
  /-- The written form of internationalized host names. -/
  | hostName
  | escapes
  | rawEscapes
  | codePage (page : Charset.CodePage)
  /-- A character set of the platform. -/
  | foreign (read : List UInt8 → Option (List Char))

namespace Charset

/-- What is wrong with a declared character set or with a text in it. -/
inductive Fault where
  /-- The label holds a NUL and names nothing that could be looked up. -/
  | nulInLabel
  /-- No character set has this label. -/
  | unknownLabel
  /-- The bytes are no text in the declared set. -/
  | malformed
  deriving DecidableEq, Repr

/-- Whether `c` is kept in the normal form of a label. -/
def isLabelChar (c : Char) : Bool :=
  ('0' ≤ c && c ≤ '9') || ('a' ≤ c && c ≤ 'z') || ('A' ≤ c && c ≤ 'Z') || c == '.'

/-- The normal form of a label, given whether a low line is due before the next kept character and
whether a character was kept already. -/
def normalFrom (isDue hasKept : Bool) : List Char → List Char
  | [] => []
  | c :: rest =>
    if isLabelChar c then
      if isDue && hasKept then '_' :: lowerAscii c :: normalFrom false true rest
      else lowerAscii c :: normalFrom false true rest
    else normalFrom true hasKept rest

/-- The normal form of a label. -/
def normalLabel (s : List Char) : List Char := normalFrom false false s

/-- The character sets other than code pages: name, other labels, set. -/
def registered : List (String × List String × Charset) :=
  [
    ("ascii",
      ["646", "ansi_x3.4_1968", "ansi_x3.4_1986", "ansi_x3_4_1968", "cp367", "csascii", "ibm367",
        "iso646_us", "iso_646.irv_1991", "iso_ir_6", "us", "us_ascii"], .ascii),
    ("latin_1",
      ["8859", "cp819", "csisolatin1", "ibm819", "iso8859", "iso8859_1", "iso_8859_1",
        "iso_8859_1_1987", "iso_ir_100", "l1", "latin", "latin1"], .latin1),
    ("charmap", [], .latin1),
    ("utf_8", ["cp65001", "u8", "utf", "utf8", "utf8_ucs2", "utf8_ucs4"], .utf8),
    ("utf_8_sig", [], .signedUtf8),
    ("utf_16", ["u16", "utf16"], .utf16 none),
    ("utf_16_le", ["unicodelittleunmarked", "utf_16le"], .utf16 (some .little)),
    ("utf_16_be", ["unicodebigunmarked", "utf_16be"], .utf16 (some .big)),
    ("utf_32", ["u32", "utf32"], .utf32 none),
    ("utf_32_le", ["utf_32le"], .utf32 (some .little)),
    ("utf_32_be", ["utf_32be"], .utf32 (some .big)),
    ("utf_7", ["u7", "unicode_1_1_utf_7", "utf7"], .utf7),
    ("punycode", [], .punycode),
    ("idna", [], .hostName),
    ("unicode_escape", [], .escapes),
    ("raw_unicode_escape", [], .rawEscapes)
  ]

/-- Every code page. -/
def pages : List CodePage :=
  CodePage.isoPages ++ CodePage.windowsPages ++ CodePage.dosPages ++ CodePage.macintoshPages ++
    CodePage.mainframePages

/-- The character set that has `label` among its other labels. -/
def ofAlias? (label : String) : Option Charset :=
  match registered.find? fun (_, aliases, _) => aliases.contains label with
  | some (_, _, charset) => some charset
  | none => (pages.find? fun page => page.aliases.contains label).map .codePage

/-- The character set of the given name. -/
def ofName? (name : String) : Option Charset :=
  match registered.find? fun (known, _, _) => known == name with
  | some (_, _, charset) => some charset
  | none => (pages.find? fun page => page.name == name).map .codePage

/-- The character set of the platform that a label in normal form names. One that says nothing names
none. -/
def ofPlatform? [Platform] (normal : List Char) : Option Charset :=
  if normal.isEmpty then none else (Platform.reader? (String.ofList normal)).map .foreign

/-- The character set that a declared label selects. Other labels come before names, and points may
stand for low lines in them. -/
def ofLabel? [Platform] (label : List Char) : Option Charset :=
  let normal := normalLabel label
  let unpointed := normal.map fun c => if c = '.' then '_' else c
  (((ofAlias? (String.ofList normal)).or (ofAlias? (String.ofList unpointed))).or
    (ofName? (String.ofList normal))).or (ofPlatform? normal)

/-- Read bytes as ASCII. -/
def decodeAscii? (bytes : List UInt8) : Option (List Char) :=
  bytes.mapM fun b => if b.toNat < 0x80 then some (Char.ofNat b.toNat) else none

/-- Read bytes as the characters of their values. -/
def decodeLatin1 (bytes : List UInt8) : List Char := bytes.map fun b => Char.ofNat b.toNat

/-- Read bytes in a character set. -/
def decode? : Charset → List UInt8 → Option (List Char)
  | .ascii, bytes => decodeAscii? bytes
  | .latin1, bytes => some (decodeLatin1 bytes)
  | .utf8, bytes => Utf8.decode? bytes
  | .signedUtf8, 0xEF :: 0xBB :: 0xBF :: rest => Utf8.decode? rest
  | .signedUtf8, bytes => Utf8.decode? bytes
  | .utf16 none, bytes => Wide.decodeMarked16? bytes
  | .utf16 (some order), bytes => Wide.decode16? order bytes
  | .utf32 none, bytes => Wide.decodeMarked32? bytes
  | .utf32 (some order), bytes => Wide.decode32? order bytes
  | .utf7, bytes => Utf7.decode? bytes
  | .punycode, bytes => Punycode.decode? (decodeLatin1 bytes)
  | .hostName, bytes => (decodeAscii? bytes).bind HostName.decode?
  | .escapes, bytes => Escapes.decode? bytes
  | .rawEscapes, bytes => Escapes.decodeRaw? bytes
  | .codePage page, bytes => page.decode? bytes
  | .foreign read, bytes => read bytes

/-- Read bytes in the character set that a label declares. No bytes are the empty text whatever
the label, unless it holds a NUL. -/
def decodeLabelled [Platform] (label : List Char) (bytes : List UInt8) : Except Fault (List Char) :=
  if label.contains '\x00' then .error .nulInLabel
  else if bytes.isEmpty then .ok []
  else
    match ofLabel? label with
    | none => .error .unknownLabel
    | some charset =>
      match charset.decode? bytes with
      | some text => .ok text
      | none => .error .malformed

end Charset

end SafeFetch
