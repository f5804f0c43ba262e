import PreviewServer.Text.Case

/-!
# Media types of files

The media type of a file is guessed from the extension of its name, without regard to case.

## Main definitions

* `extension?`: the extension of a file name
* `guessedType`: the media type guessed for a file name
-/

namespace PreviewServer

/-- Media types by extension. -/
def typesByExtension : List (String × String) :=
  [("txt", "text/plain"), ("map", "text/plain"), ("json", "application/json"),
   ("md", "text/markdown"), ("svg", "image/svg+xml"), ("png", "image/png"), ("jpg", "image/jpeg"),
   ("jpeg", "image/jpeg"), ("gif", "image/gif"), ("ico", "image/x-icon"), ("toml", "text/x-toml"),
   ("xml", "text/xml"), ("pdf", "application/pdf"), ("ts", "video/vnd.dlna.mpeg-tts"),
   ("mjs", "application/javascript"), ("js", "text/javascript"), ("jsx", "text/javascript"),
   ("htm", "text/html"), ("html", "text/html"), ("xhtml", "application/xhtml+xml"),
   ("css", "text/css"), ("wasm", "application/wasm"), ("rs", "text/x-rust"), ("mp4", "video/mp4"),
   ("zip", "application/zip"), ("gz", "application/gzip"), ("tar", "application/x-tar"),
   ("woff", "application/font-woff"), ("woff2", "font/woff2"), ("ttf", "font/ttf"),
   ("csv", "text/csv"), ("yaml", "text/x-yaml"), ("yml", "text/x-yaml"), ("webp", "image/webp"),
   ("mp3", "audio/mpeg")]

/-- The media type of bytes of which nothing is known. -/
def unknownType : String := "application/octet-stream"

/-- The part of a file name after its last dot, unless that dot is its first character. -/
def extension? (name : String) : Option String :=
  let cs := name.toList
  let ending := (cs.reverse.takeWhile (· ≠ '.')).reverse
  if ending.length + 1 < cs.length then some (String.ofList ending) else none

/-- The media type guessed for a file name. -/
def guessedType (name : String) : String :=
  (extension? name).elim unknownType fun e =>
    (typesByExtension.lookup (asciiLower e)).getD unknownType

example : extension? "a.tar.gz" = some "gz" ∧ extension? ".js" = none ∧
    extension? "Makefile" = none ∧ extension? "a." = some "" := by decide

end PreviewServer
