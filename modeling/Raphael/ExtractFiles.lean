namespace Raphael.ExtractFiles

-- The script's variables.
structure Options where
  cleanVendor : Bool
  kang : String
  sectionName : String
  src : String
  deriving DecidableEq, Repr

-- SRC is not reset, so it may come from the environment.
def initial (environmentSrc : String) : Options where
  cleanVendor := true
  kang := ""
  sectionName := ""
  src := environmentSrc

-- The loop over the arguments. Where nothing is left to shift, the script ends,
-- because of set -e.
def parseArgs (options : Options) : List String → Option Options
  | [] => some options
  | word :: rest =>
      if word = "-n" ∨ word = "--no-cleanup" then
        parseArgs { options with cleanVendor := false } rest
      else if word = "-k" ∨ word = "--kang" then
        parseArgs { options with kang := "--kang" } rest
      else if word = "-s" ∨ word = "--section" then
        match rest with
        | [] => none
        | value :: rest =>
            parseArgs { options with sectionName := value, cleanVendor := false } rest
      else parseArgs { options with src := word } rest

def DEVICE : String := "raphael"
def VENDOR : String := "xiaomi"

-- What is called afterwards, word by word.
def calls (myDir androidRoot : String) (options : Options) : List (List String) :=
  let src := if options.src = "" then "adb" else options.src
  [["setup_vendor", DEVICE, VENDOR, androidRoot, "false",
      if options.cleanVendor then "true" else "false"],
    ["extract", myDir ++ "/proprietary-files.txt", src, options.kang, "--section",
      options.sectionName],
    [myDir ++ "/setup-makefiles.sh"]]

def extractFiles (myDir androidRoot environmentSrc : String) (args : List String) :
    Option (List (List String)) :=
  (parseArgs (initial environmentSrc) args).map (calls myDir androidRoot)

end Raphael.ExtractFiles
