import KernelHub.Ids
import KernelHub.Json.Printer
import KernelHub.Json.Record

/-
Identifiers in JSON. An identifier is written as a string, and any text that names it is read.
-/

namespace KernelHub

open Json (Document)

namespace KernelId

def toJson (k : KernelId) : Json := .string (toString k)

/-- Decodes a document. -/
def decode? (d : Document) : Option KernelId := d.string?.bind fun s => (read s).toOption

/-- Decodes a JSON text. -/
def readJson? (text : String) : Option KernelId := (Document.read? text).bind decode?

end KernelId

namespace SessionId

def toJson (s : SessionId) : Json := .string (toString s)

/-- Decodes a document. -/
def decode? (d : Document) : Option SessionId := d.string?.bind fun s => (read s).toOption

/-- Decodes a JSON text. -/
def readJson? (text : String) : Option SessionId := (Document.read? text).bind decode?

end SessionId

end KernelHub
