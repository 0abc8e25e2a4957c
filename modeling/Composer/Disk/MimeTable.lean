import Composer.Text.Search
set_option autoImplicit false

/-!
# MIME types by extension

What type of content a file has is told by the extension of its name. Which extensions there are and
what they stand for is not for the program to say: the table comes with the disk.
-/

namespace Composer

/-- MIME types with the extensions that stand for them, in lower case. -/
structure MimeTable where
  rows : List (String × String)
  deriving DecidableEq, Repr

namespace MimeTable

/-- A character without its case, where that leaves letters of ASCII; all else is unchanged. -/
def foldCase (c : Char) : List Char :=
  match c with
  | 'ſ' => ['s']
  | '\u212A' => ['k']
  | 'ß' | 'ẞ' => ['s', 's']
  | 'ﬀ' => ['f', 'f']
  | 'ﬁ' => ['f', 'i']
  | 'ﬂ' => ['f', 'l']
  | 'ﬃ' => ['f', 'f', 'i']
  | 'ﬄ' => ['f', 'f', 'l']
  | 'ﬅ' | 'ﬆ' => ['s', 't']
  | c => [Chars.lowerAscii c]

/-- What an extension stands for, in any case. -/
def lookup? (t : MimeTable) (extension : String) : Option String :=
  t.rows.lookup (String.ofList (extension.toList.flatMap foldCase))

/-- The rows for common extensions. -/
def common : MimeTable where
  rows := [
    ("7z", "application/x-7z-compressed"), ("avi", "video/x-msvideo"), ("bmp", "image/bmp"),
    ("bz2", "application/x-bzip2"), ("css", "text/css"), ("csv", "text/csv"),
    ("doc", "application/msword"),
    ("docx", "application/vnd.openxmlformats-officedocument.wordprocessingml.document"),
    ("epub", "application/epub+zip"), ("flac", "audio/flac"), ("gif", "image/gif"),
    ("gz", "application/gzip"), ("htm", "text/html"), ("html", "text/html"),
    ("ico", "image/x-icon"), ("ics", "text/calendar"), ("jar", "application/java-archive"),
    ("jpeg", "image/jpeg"), ("jpg", "image/jpeg"), ("js", "text/javascript"),
    ("json", "application/json"), ("md", "text/markdown"), ("mkv", "video/x-matroska"),
    ("mov", "video/quicktime"), ("mp3", "audio/mpeg"), ("mp4", "video/mp4"),
    ("mpeg", "video/mpeg"), ("mpg", "video/mpeg"),
    ("odp", "application/vnd.oasis.opendocument.presentation"),
    ("ods", "application/vnd.oasis.opendocument.spreadsheet"),
    ("odt", "application/vnd.oasis.opendocument.text"), ("oga", "audio/ogg"),
    ("ogg", "audio/ogg"), ("ogv", "video/ogg"), ("ogx", "application/ogg"), ("otf", "font/otf"),
    ("pdf", "application/pdf"), ("png", "image/png"), ("ppt", "application/vnd.ms-powerpoint"),
    ("pptx", "application/vnd.openxmlformats-officedocument.presentationml.presentation"),
    ("ps", "application/postscript"), ("py", "text/plain"), ("rs", "text/x-rust"),
    ("svg", "image/svg+xml"), ("svgz", "image/svg+xml"), ("tar", "application/x-tar"),
    ("tif", "image/tiff"), ("tiff", "image/tiff"), ("toml", "text/x-toml"),
    ("tsv", "text/tab-separated-values"), ("ttf", "font/ttf"), ("txt", "text/plain"),
    ("wasm", "application/wasm"), ("wav", "audio/wav"), ("weba", "audio/webm"),
    ("webm", "video/webm"), ("webp", "image/webp"), ("woff", "font/woff"),
    ("woff2", "font/woff2"), ("xhtml", "application/xhtml+xml"),
    ("xls", "application/vnd.ms-excel"),
    ("xlsx", "application/vnd.openxmlformats-officedocument.spreadsheetml.sheet"),
    ("xml", "text/xml"), ("zip", "application/zip")]

end MimeTable
end Composer
