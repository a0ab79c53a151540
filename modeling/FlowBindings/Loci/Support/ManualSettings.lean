import FlowBindings.Loci.Notice

/-!
# Settings of the manual

The settings that the tool which lays out the manual reads. They are written down as
paragraphs: the lines that explain a setting, and then the name and the value of the
setting. In the lines a percent sign stands for the name and a hash alone for an empty line;
how most of them begin is told by a question mark or a plus sign. A tilde, caret or
exclamation mark with a letter or digit stands for a phrase that occurs often. A paragraph of
one line is the title of a section.
-/

namespace FlowBindings.Loci.Support

open Text

/-- A line that explains a setting, with its beginning written out. -/
def remarkText (line : String) : String :=
  if startsWith line "? " then "If the % tag is set to " ++ dropFirst 2 line
  else if startsWith line "+ " then "The % tag can be used to " ++ dropFirst 2 line
  else line

def settingText (lines : List String) : String :=
  match lines.reverse with
  | [] => ""
  | [title] =>
    let bar := "#" ++ repeated 75 "-" ++ "\n"
    bar ++ "# " ++ title ++ "\n" ++ bar
  | setting :: remarks =>
    let name := (splitOn ' ' setting).headD ""
    let remark (line : String) :=
      if line = "#" then line else "# " ++ replace (remarkText line) "%" name
    each remarks.reverse (remark · ++ "\n") ++ "\n" ++ padRight 23 name ++ "="
      ++ dropFirst name.length setting ++ "\n"

/-- A text with its phrases written out. A phrase may hold phrases listed before it. -/
def spelledOut (phrases text : String) : String :=
  (splitOn '\n' phrases).foldr (fun phrase text =>
    replace text (takeFirst 2 phrase) (dropFirst 3 phrase)) text

def paragraphs (lines : List String) : List (List String) :=
  lines.foldr (fun line rest => match rest with
    | [] => [[line]]
    | p :: others => if line = "" then [] :: p :: others else (line :: p) :: others) [[]]

def manualSettings : String := block r#"
# Doxyfile 1.6.3

# This file describes the settings to be used by the documentation system
# doxygen (www.doxygen.org) for a project
#
# All text after a hash (#) is considered a comment and will be ignored
# The format is:
#	   TAG = value [value, ...]
# For lists items can also be appended using:
#	   TAG += value [value, ...]
# Values that contain spaces should be placed between quotes (" ")

"# ++ join "\n" ((paragraphs (splitOn '\n' (spelledOut phrases settingNotes))).map settingText)
where
  phrases : String := r#"!a file
!b GENERATE_
!c http://doc.trolltech.com/qthelpproject.
!d name
!e e the
!f will
!g that
!h class
!i HTML
!j s are
!k ing the
!l which
!m value
!n struct
!o s the
!p list
!q project
!r ? YES
!s this
!t then
!u use
!v index
!w EXTRACT_
!x graph
!y http://www.gnu.org/software/
!z only
!A define
!B group
!C support
!D path
!E with
!F _PATTERNS
!G of a
!H to NO
!I using
!J format
!K script
!L _MEMBER
!M section
!N FILTER
!O _GRAPH
!P page
!Q _NAME
!R preprocessor
!S INCLUDE
!T warning
!U version
!V OUTPUT
!W FILE
!X LaTeX
!Y other
!Z depend
!0 make
!1 show
!2 instance
!3 standard
!4 macro
!5 call
!6 line
!7 refer
!8 style
!9 from
~a documentation
~b generate
~c !f be
~d the default
~e doxygen
~f Doxygen !f
~g set to YES
~h in the
~i configuration options related to
~j of the
~k specify
~l If a relative !D is entered the !m of !V_DIRECTORY ~c
~m output
~n If left blank
~o directories
~p include
~q documented
~r ~e !f
~s Set the % tag to YES if your !q consists of
~t directory
~u If set !H
~v If the !b!iHELP tag is ~g, the %
~w can be
~x The % tag is !ud to ~k
~y command
~z If the % and HAVE_DOT tag!j ~g !t
~A ~k one or more
~B member
~C brief de!Kion
~D option
~E !r (~d)
~F contain
~G function
~H the % tag
~I !dspace
~J source
~K !hes
~L Note !g
~M default
~N !p. This !p is created by putting
~O should
~P to the
~Q !ud to
~R ~Js !z. ~f !t ~b ~m !g is more tailored for
~S If the
~T !r !t
~U Possible !m!j YES and NO.
~V For more in!Jion please see
~W the !a
~X filter
~Y put in front of it. ~n
~Z Doxygen
~0 !s tag
~1 !g are
~2 The % tag
~3 specified
~4 !r,
~5 !9 the
~6 for each
~7 inheritance
~8 ~c !ud
~9 alphabetical
^a disable
^b instead of
^c documents. This may be !uful for small !qs and may help to
^d or !h method. ~L enabling !s ~D !f significantly increase
^e ~c ~bd !g ~w !ud as input for
^f is !ud
^g the !i
^h the time !G run. So in most cases it ~c better to enable
^i to YES
^j specifie!o
^k a !x
^l input !as
^m !E the
^n header
^o % tag to ~A wildcard pattern
^p !l ~w !ud by a validating XML parser to check the
^q If it is left blank
^r This !0!o ~m suitable for on!6 browsing !I
^s tag ~Fs ~o, you can us!e
^t !g capture!o !nure
^u interpret the first !6 (until the first dot) !G
^v number of
^w !1!k direct
^x is enabled
^y determine!o
^z ~8 as ~d !D.
^A ~S ENABLE_PREPROCESSING, SEARCH_!SS, %, and
^B ~4 additional !v !as
^C !t ~r
^D !s ~D
^E ~u (~d)
^F + enable (YES) or
^G !f appear
^H and *.h) to ~X out the ~J-!as ~h ~o. If left
^I the ~7 and collaboration
^J search
^K ~F links (just like ^g ~m) ^b !P !7ences
^L !g the size of ^k ~w further restricted by
^M location
^N wher!e
^O extension
^P including
^Q ~chave just like regular Qt-!8 comments
^R definition
^S tag is
^T ~k the
^U ~h ~a.
^V Set ~H !H to ^a the
^W !g is
^X set the
^Y for the
^Z This ~D has no effect if !wALL ^x."#
  settingNotes : String := block r#"
Project related configuration ~Ds

This tag ^j encoding !ud for all characters ~h config !a
!g follow. The ~M is UTF-8 !l is also the encoding !ud for all
text befor!e first occurrence of ~0. ~Z !us libiconv (or the
iconv built into libc) ^Y transcoding. See
!ylibiconv ^Y !p of possible encodings.
DOXY!W_ENCODING UTF-8

~2 is a single word (or a sequence of words surrounded
by quotes) !g ~O identify the !q.
PROJECT!Q "LOCI OpenFlow Interfaces"

+ enter a !q or revision number.
This could be handy for archiv!k ~bd ~a or
if some !U control system ^f.
PROJECT_NUMBER

~x the (relative or absolute)
base !D ^N ~bd ~a ~c put.
If a relative !D is entered, it ~c relative ~P ^M
where ~e was started. ~n the current ~t ~8.
!V_DIRECTORY doc

~4 ^C create
4096 sub-~o (in 2 levels) under the ~m ~t of each ~m
!J and !f distribut!e ~bd !as over these ~o.
Enabling ^D ~w !uful when feeding ~e a huge amount of
~J !as, where putting all ~bd !as ~h same ~t would
!Ywise ca!u performance problems for ~W system.
CREATE_SUBDIRS NO

~x the language in !l all
~a ~bd by ~e is written. ~f !u !s
in!Jion to ~b all constant ~m ~h proper language.
The ~M language is English, !Y !Ced language!j:
Afrikaans, Arabic, Brazilian, Catalan, Chinese, Chinese-Traditional,
Croatian, Czech, Danish, Dutch, Esperanto, Farsi, Finnish, French, German,
Greek, Hungarian, Italian, Japanese, Japanese-en (Japanese !E English
messages), Korean, Korean-en, Lithuanian, Norwegian, Macedonian, Persian,
Polish, Portuguese, Romanian, Russian, Serbian, Serbian-Cyrilic, Slovak,
Slovene, Spanish, Swedish, Ukrainian, and Viet!dse.
!V_LANGUAGE English

~E ~f
~p brief ~B de!Kions after the ~Bs ~1 !ped in
~W and !h ~a (similar to JavaDoc).
Set !H to ^a !s.
BRIEF!L_DESC YES

~E ~f prepend
the ~C !G ~B or ~G befor!e detailed de!Kion.
Note: if both HIDE_UNDOC!LS and BRIEF!L_DESC are set !H, the
~Cs ~c completely suppressed.
REPEAT_BRIEF YES

This tag implements a quasi-intelligent ~C abbreviator
^W ~Q form the text in various !pings. Each string
in !s !p, if found a!o leading text ~j ~C, ~c
stripped ~5 text and the result after process!k whole !p, is
!ud a!o annotated text. Otherwise, the ~C ^f as-is.
~n, the following !m!j !ud ("$!d" is automati!5y
replaced ^m !d ~j entity): "The $!d !h" "The $!d widget"
"The $!d !a" "is" "provides" "specifies" "~Fs"
"represents" "a" "an" "the"
ABBREVIATE_BRIEF

~S % and REPEAT_BRIEF tag!j both ~g !t
~f ~b a detailed !M even if there is !z a brief
de!Kion.
ALWAYS_DETAILED_SEC NO

~4 ~r !1 all
inherited ~Bs !G !h ~h ~a of !g !h as if those
~Bs were ordinary !h ~Bs. Con!nors, de!nors and assignment
operators ~j base ~K !f not be !1n.
INLINE_INHERITED_MEMB NO

~T ~f prepend the full
!D before !as !d ~h !a !p and ~h ^n !as. If set
!H the shortest !D !g !0s ~W !d unique ~8.
FULL_PATH!QS YES

~S FULL_PATH!QS ^S ~g !t ~H
~w ~Q strip a !ur-!Ad part ~j !D. Stripping is
!z done if one ~j ~3 strings matche!o left-hand part of
the !D. The tag ~w ~Q !1 relative !Ds ~h !a !p.
~n the ~t !9 !l ~e is run ^f a!o
!D to strip.
STRIP_FROM_PATH

+ strip a !ur-!Ad part of
the !D mentioned ~h ~a !G !h, !l tells
the reader !l ^n !a to ~p in order to !u a !h.
~n !z the !d ~j ^n !a ~F!k !h
^R ^f. Otherwise one ~O ^T ~p !Ds !g
are normally passed ~P compiler us!k -I flag.
STRIP_FROM_INC_PATH

~4 ~r ~b much shorter
(but less readable) !a !ds. This ~w !uful is your !a systems
doesn't !C long !ds like on DOS, Mac, or CD-ROM.
SHORT!QS NO

~T ~Z
!f ^u JavaDoc-!8
comment a!o ~C. ~u, the JavaDoc
comments ^Q
(thus requiring an explicit @brief ~y for a ~C.)
JAVADOC_AUTOBRIEF NO

~T ~f
^u Qt-!8
comment a!o ~C. ~u, the comments
^Q (thus requiring
an explicit \brief ~y for a ~C.)
QT_AUTOBRIEF NO

~2 ~w ~g to !0 ~Z
treat a multi-!6 C++ special comment block (i.e. a block of //! or ///
comments) as a ~C. This ~Q be ~d behaviour.
The new ~M is to treat a multi-!6 C++ comment block as a detailed
de!Kion. Set ~0 ^i if you p!7 the old behaviour instead.
MULTILINE_CPP_IS_BRIEF NO

~E !t an un~q
~B inherit!o ~a !9 any ~q ~B !g it
re-implements.
INHERIT_DOCS YES

~4 ^C produce
a new !P ~6 ~B. ~u, the ~a !G ~B !f
be part ~j !a/!h/~I !g ~Fs it.
SEPARATE!L_PAGES NO

+ ^X ^v spaces in a tab.
~Z !us !s !m to replace tabs by spaces in code fragments.
TAB_SIZE 8

This tag ~w ~Q ~k a ^v aliases !g acts
as ~ys ^U An alias ha!o form "!d=!m".
For example adding "sideeffect=\par Side Effects:\n" !f allow you to
put the ~y \sideeffect (or @sideeffect) ~h ~a, !l
!f result in a !ur-!Ad para!x !E heading "Side Effects:".
You can put \n's ~h !m part !Gn alias to insert new!6s.
ALIASES

~s C
~R C.
For !2, some ~j !ds ~1 !ud ~c different. The !p
!Gll ~Bs ~c omitted, etc.
OPTIMIZE_!V_FOR_C YES

~s Java
~R
Java. For !2, ~Is ~c presented as packages, qualified
scopes !f look different, etc.
OPTIMIZE_!V_JAVA NO

~s Fortran
~R
Fortran.
OPTIMIZE_FOR_FORTRAN NO

~s VHDL
~Js. ~f !t ~b ~m ^W tailored for
VHDL.
OPTIMIZE_!V_VHDL NO

~Z select!o parser to !u !Zing on the ^O ~j !as it parses.
With ~0 you can assign !l parser to !u for a given ^O.
~Z has a built-in mapping, but you can override or extend it !I ~0.
The !J is ext=language, where ext is a !a ^O, and language is one of
the parsers !Ced by ~e: IDL, Java, Java!K, C#, C, C++, D, PHP,
Objective-C, Python, Fortran, VHDL, C, C++. For !2 to !0 ~e treat
.inc !as as Fortran !as (~M is PHP), and .f !as as C (~M is Fortran),
!u: inc=Fortran f=C. ~L for custom ^Os you also need to set !W!F !Ywise ~W!j not read by ~e.
EXTENSION_MAPPING

If you !u STL ~K (i.e. std::string, std::vector, etc.) but do not want
to ~p (a tag !a for) the STL ~Js as input, !t you ~O
set ~0 ^i in order to let ~e match ~Gs declarations and
^Rs whose arguments ~F STL ~K (e.g. func(std::string); v.s.
func(std::string) {}). This also !0 ^I
diagrams !g involve STL ~K more complete and accurate.
BUILTIN_STL_SUPPORT NO

If you !u Microsoft's C++/CLI language, you ~O set ^D ^i to
enable parsing !C.
CPP_CLI_SUPPORT NO

~s sip ~Js !z.
~f pars!em like normal C++ but !f assume all ~K !u public
^b private ~7 when no explicit protection keyword is present.
SIP_SUPPORT NO

For Microsoft's IDL there are propget and propput attributes to indicate getter
and setter methods for a property. Setting ^D ^i (~d)
!f !0 ~e to replac!e get and set methods by a property ~h
~a. This !f !z work if the method!j indeed getting or
setting a simple type. If !s is not the case, or you want to !1 the
methods anyway, you ~O set ^D !H.
IDL_PROPERTY_SUPPORT YES

If ~B !Bing ^f ~h ~a and the %
^S ~g, ^C reus!e ~a ~j first
~B ~h !B (if any) ^Y !Y ~Bs ~j !B. By ~M
all ~Bs !G !B must be ~q explicitly.
DISTRIBUTE_GROUP_DOC NO

Set ~H ^i (~d) to allow !h ~B !Bs of
the same type (for !2 a !B of public ~Gs) to be put as a
sub!B of !g type (e.g. under the Public Functions !M). Set it to
NO to prevent sub!Bing. Alternatively, !s ~w done per !h !I
the \nosub!Bing ~y.
SUBGROUPING YES

When % ^x, a typedef !G !n, union, or enum
is ~q as !n, union, or enum ^m !d ~j typedef. So
typedef !n TypeS {} TypeT, ^G ~h ~a as a !n
!E !d TypeT. When ^ad the typedef ^G as a ~B !G !a,
~I, or !h. And the !n ~c !dd TypeS. This can typi!5y
be !uful for C code in cas!e coding convention dictates !g all compound
type!j typedef'ed and !z the typedef is !7enced, never the tag !d.
TYPEDEF_HIDES_STRUCT NO

The % ^y size ~j internal cache !u to
determine !l symbols to keep in memory and !l to flush to disk.
When the cache is full, less often !ud symbols ~c written to disk.
For small to medium size !qs (<1000 ^l) ~d !m is
probably good enough. For larger !qs a too small cache size can ca!u
~e to be busy swapping symbols to and !9 disk most ~j time
ca!I a significant performance penality.
~S system has enough physical memory increas!k cache !f improv!e
performance by keeping more symbols in memory. ~L the !m works on
a logarithmic scale so increas!k size by one !f rougly doubl!e
memory usage. The cache size is given by !s formula:
2^(16+%). The valid range is 0..9, ~d is 0,
corresponding to a cache size of 2^16 = 65536 symbols
SYMBOL_CACHE_SIZE 0

Build related configuration ~Ds

!r ~r assume all entities in
~a are ~q, even if no ~a was available.
Private !h ~Bs and static !a ~Bs ~c hidden unless
the !wPRIVATE and !wSTATIC tag!j ~g
!wALL YES

!r all private ~Bs !G !h
~c ~pd ^U
!wPRIVATE NO

!r all static ~Bs !G !a
~c ~pd ^U
!wSTATIC YES

!r ~K (and !ns)
!Ad lo!5y in ~J !as ~c ~pd ^U
~u !z ~K !Ad in ^n !a!j ~pd.
!wLOCAL_CLASSES YES

This flag is !z !uful for Objective-C code. When ~g local
methods, !l are !Ad ~h implementation !M but not in
the interface are ~pd ^U
^E !z methods ~h interface are ~pd.
!wLOCAL_METHODS NO

If !s flag is ~g, the ~Bs !Gnonymous ~Is ~c
extracted and appear ~h ~a as a ~I !5ed
'anonymous_~I{!a}', where !a ~c replaced ^m base
!d ~j !a !g ~F!o anonymous ~I. By ~M
anonymous ~I are hidden.
!wANON_NSPACES NO

~4 ~f hide all
un~q ~Bs of ~q ~K, !as or ~Is.
^E these ~Bs ~c ~pd ~h
various overviews, but no ~a !M is ~bd.
^Z
HIDE_UNDOC!LS NO

~4 ~f hide all
un~q ~K ~1 normally visible ~h !h hierarchy.
^E these ~K ~c ~pd ~h various
overviews. ^Z
HIDE_UNDOC_CLASSES NO

~4 ~f hide all
friend (!h|!n|union) declarations.
^E these declarations ~c ~pd ~h
~a.
HIDE_FRIEND_COMPOUNDS NO

~4 ~f hide any
~a blocks found insid!e body !G ~G.
^E these blocks ~c appended ~P
~G's detailed ~a block.
HIDE_IN_BODY_DOCS NO

~2 determines if ~a
^W typed after a \internal ~y is ~pd. ~S ^S set
!H (~d) !t the ~a ~c excluded.
Set it ^i to ~p the internal ~a.
INTERNAL_DOCS NO

? NO !t ~f !z ~b
!a !ds in lower-case letters. If ~g upper-case letter!j also
allowed. This is !uful if you have ~K or !as whose !ds !z differ
in case and if your !a system !Cs case sensitive !a !ds. Windows
and Mac !ur!j advised to set ^D !H.
CASE_SENSE!QS YES

? NO (~d) !t ~Z
!f !1 ~Bs ^mir full !h and ~I scopes ~h
~a. If ~g the scope ~c hidden.
HIDE_SCOPE!QS NO

~E !t ~Z
!f put a !p ~j !as ~1 ~pd by a !a ~h ~a
of !g !a.
SHOW_!S_!WS YES

~T ~Z
!f !p ~p !as !E double quotes ~h ~a
rather than !E sharp brackets.
FORCE_LOCAL_!SS NO

~E !t a tag [in!6]
is inserted ~h ~a for in!6 ~Bs.
INLINE_INFO YES

~E !t ~e
!f sort the (detailed) ~a of !a and !h ~Bs
~9ly by ~B !d. ~u the ~Bs ^G in
declaration order.
SORT!L_DOCS YES

~T ~r sort the
brief ~a of !a, ~I and !h ~Bs ~9ly
by ~B !d. ^E the ~Bs ^G in
declaration order.
SORT_BRIEF_DOCS YES

~T ~r sort the (brief and detailed) ~a of !h ~Bs so !g con!nors and de!nor!j !ped first. ^E the con!nors ^G ~h respective orders !Ad by SORT!L_DOCS and SORT_BRIEF_DOCS. This tag ~c ignored for brief docs if SORT_BRIEF_DOCS is set !H and ignored for detailed docs if SORT!L_DOCS is set !H.
SORT!LS_CTORS_1ST NO

~T ~r sort the
hierarchy of !B !ds into ~9 order. ^E
the !B !ds ^G ~hir !Ad order.
SORT_GROUP!QS YES

~4 the !h !p ~c
sorted by fully-qualified !ds, ^P ~Is. If set to
NO (~d), the !h !p ~c sorted !z by !h !d,
not ^P the ~I part.
Note: This ~D is not very !uful if HIDE_SCOPE!QS is ~g.
Note: This ~D applies !z ~P !h !p, not ~P
~9 !p.
SORT_BY_SCOPE!Q NO

^F
^a (NO) the todo ~N \todo
~ys ^U
!bTODOLIST YES

^F
^a (NO) the test ~N \test
~ys ^U
!bTESTLIST YES

^F
^a (NO) the bug ~N \bug
~ys ^U
!bBUGLIST YES

^F
^a (NO) the deprecated ~N
\deprecated ~ys ^U
!bDEPRECATEDLIST YES

+ enable conditional
~a !Ms, marked by \if !M!d ... \endif.
ENABLED_SECTIONS

~2 ^y maximum ^v !6s
the initial !m !G variable or !A consists of for it to appear in
the ~a. ~S initializer consists of more !6s than ~3
here it ~c hidden. Use a !m of 0 to hide initializers completely.
The appearance ~j initializer of individual variables and !As ~h
~a ~w controlled !I \!1initializer or \hideinitializer
~y ~h ~a regardless of !s setting.
MAX_INITIALIZER_LINES 30

^V !p of !as ~bd
at the bottom ~j ~a of ~K and !ns. If ~g the
!p !f mention ~Ws !g were ~Q ~b the ~a.
SHOW_USED_!WS YES

~S ~Js in your !q are distributed over multiple ~o
!t setting ~H ^i !f !1 the ~t hierarchy
^U The ~M is NO.
SHOW_DIRECTORIES NO

^V generation ~j Files !P.
This !f remov!e Files entry ~5 Quick Index and ~5
Folder Tree View (if ~3). The ~M is YES.
SHOW_!WS YES

^V generation ~j
Namespaces !P.
This !f remov!e Namespaces entry ~5 Quick Index
and ~5 Folder Tree View (if ~3). The ~M is YES.
SHOW!QSPACES YES

+ ~k a program or !K !g
~e ~O invoke to get the current !U ~6 !a (typi!5y !9
the !U control system). ~f invok!e program by executing (via
popen()) the ~y <~y> <input-!a>, where <~y> i!o !m of
~H, and <input-!a> i!o !d !Gn input !a
provided by ~e. Whatever the program writes to !3 ~m
^f as ~W !U. Se!e manual for examples.
!W_VERSION_!N

+ ~k a layout !a !l ~c parsed by
~e. The layout !a control!o global !nure ~j ~bd ~m !as
in an ~m !J in!Zent way. The creat!e layout !a !g represents
~e's ~Ms, run ~e ^m -l ~D. You can ~Dally ~k a
!a !d after the ~D, if omitted ~ZLayout.xml ~8 a!o !d
~j layout !a.
LAYOUT_!W

~i !T and progress messages

+ turn on/off the messages ~1 ~bd
by ~e. ~U ~n NO ^f.
QUIET NO

+ turn on/off the !T messages ~1
~bd by ~e. ~U ~n
NO ^f.
WARNINGS YES

If % is ~g, ^C ~b !Ts
for un~q ~Bs. If !wALL is ~g !t !s flag !f
automati!5y be ^ad.
WARN_IF_UNDOCUMENTED YES

If % is ~g, ~r ~b !Ts for
potential errors ~h ~a, such as not documenting some
parameters in a ~q ~G, or documenting parameters !g
don't exist or !I markup ~ys wrongly.
WARN_IF_DOC_ERROR YES

This % ~D ~w abled to get !Ts for
~Gs ~1 ~q, but have no ~a ^Yir parameters
or return !m. ^E ~r !z warn about
wrong or incomplete parameter ~a, but not about the absence of
~a.
WARN_NO_PARAMDOC NO

~2 ^y !J ~j !T messages !g
~e can produce. The string ~O conta~h $!a, $!6, and $text
tags, !l ~c replaced by ~W and !6 number !9 !l the
!T originated and the !T text. Optionally the !J may ~F
$!U, !l ~c replaced by the !U ~j !a (if it could
be obtained via !W_VERSION_!N)
WARN_FORMAT "$!a:$!6: $text"

+ ~k a !a to !l !T
and error messages ~O be written. ~n the ~m is written
to stderr.
WARN_LOG!W

~i the ^l

+ ~k ~Ws and/or ~o !g ~F
~q ~J !as. You may enter !a !ds like "my!a.cpp" or
~o like "/usr/src/my!q". Separate ~Ws or ~o
!E spaces.
INPUT src inc/loci

This tag ~w ~Q ^T character encoding ~j ~J !as
!g ~e parses. Internally ~e !u!o UTF-8 encoding, !l is
also ~d input encoding. ~Z !us libiconv (or the iconv built
into libc) ^Y transcoding. See !ylibiconv for
the !p of possible encodings.
INPUT_ENCODING UTF-8

~S !m ~j INPUT ^s
^o (like *.cpp
^H
blank the following pattern!j tested:
*.c *.cc *.cxx *.cpp *.c++ *.java *.ii *.ixx *.ipp *.i++ *.inl *.h *.hh *.hxx
*.hpp *.h++ *.idl *.odl *.cs *.php *.php3 *.inc *.m *.mm *.py *.f90
!W!F

+ turn ~k whether or not sub~o
~O be ^Jed for ^l as well. ~U
~n NO ^f.
RECURSIVE NO

+ ~k !as and/or ~o !g ~O
excluded ~5 INPUT ~J !as. This way you can easily exclude a
sub~t !9 a ~t tree whose root is ~3 ^m INPUT tag.
EXCLUDE

~2 ~w !ud select whether or not !as or
~o ~1 symbolic links (a Unix !asystem feature) are excluded
~5 input.
EXCLUDE_SYMLINKS NO

~S !m ~j INPUT ^s
^os to exclude
certain !as !9 those ~o. ~L the wildcard!j matched
against ~W !E absolute !D, so to exclude all test ~o
for example us!e pattern */test/*
EXCLUDE!F

+ ~A symbol !ds
(~Is, ~K, ~Gs, etc.) !g ~O be excluded ~5
~m. The symbol !d ~w a fully qualified !d, a word, or if the
wildcard * ^f, a substring. Examples: ANamespace, AClass,
AClass::ANamespace, ANamespace::*Test
EXCLUDE_SYMBOLS

+ ~A !as or
~o !g ~F example code fragments ~1 ~pd (see
the \~p ~y).
EXAMPLE_PATH

~S !m ~j EXAMPLE_PATH ^s
^o (like *.cpp
^H
blank all !a!j ~pd.
EXAMPLE!F

~T sub~o ~c
^Jed for ^l to be !ud ^m \~p or \dont~p
~ys irrespective ~j !m ~j RECURSIVE tag.
~U ~n NO ^f.
EXAMPLE_RECURSIVE NO

+ ~A !as or
~o !g ~F image ~1 ~pd ~h ~a (see
the \image ~y).
IMAGE_PATH

+ ~k a program !g ~e ~O
invoke to ~X ~6 input !a. ~f invok!e ~X program
by executing (via popen()) the ~y <~X> <input-!a>, where <~X>
i!o !m ~j % tag, and <input-!a> i!o !d !Gn
input !a. ~f !t us!e ~m !g the ~X program writes
to !3 ~m.
If !N!F is ~3, ~0 ~c
ignored.
INPUT_!N

+ ~k ~Xs on a per !a pattern
basis.
~f compare ~W !d !E each pattern and apply the
~X if there is a match.
The ~X!j a !p ~j form:
pattern=~X (like *.cpp=my_cpp_~X). See INPUT_!N for further
info on how ~X!j !ud. If % is empty, INPUT_!N
is applied to all !as.
!N!F

~4 the input ~X (if set !I
INPUT_!N) ~c ~Q ~X the ^l when producing ~J
!as to browse (i.e. when SOURCE_BROWSER is ~g).
!N_SOURCE_!WS NO

~i ~J browsing

~T a !p of ~J !as !f
be ~bd. Documented entities ~c cross-!7enced ^mse ~Js.
Note: To get rid !Gll ~J code ~h ~bd ~m, !0 sure also
VERBATIM_HEADERS is set !H.
SOURCE_BROWSER NO

Setting ~H ^i !f ~p the body
of ~Gs and ~K directly ^U
INLINE_SOURCES NO

Setting ~H ^i (~d) !f in!n
~e to hide any special comment blocks !9 ~bd ~J code
fragments. Normal C and C++ comments !f always remain visible.
STRIP_CODE_COMMENTS YES

!r
!t ~6 ~q ~G all ~q
~Gs !7encing it ~c !ped.
REFERENCED_BY_RELATION NO

!r
!t ~6 ~q ~G all ~q entities
!5ed/!ud by !g ~G ~c !ped.
REFERENCES_RELATION NO

~E
and SOURCE_BROWSER ^S ~g, !t the hyperlinks !9
~Gs in REFERENCES_RELATION and REFERENCED_BY_RELATION !ps !f
link ~P ~J code.
Otherwis!ey !f link ~P ~a.
REFERENCES_LINK_SOURCE YES

~T the !7ences to ~J code
!f point ~P !i ~bd by the htags(1) tool ^b ~e
built-in ~J browser. The htags tool is part of GNU's global ~J
tagging system (see !yglobal/global.html). You
!f need !U 4.8.6 or higher.
USE_HTAGS NO

~E !t ~Z
!f ~b a verbatim copy ~j ^n !a ~6 !h for
!l an ~p is ~3. Set !H to ^a !s.
VERBATIM_HEADERS YES

~i the ~9 !h !v

~4 an ~9 !v
!Gll compounds ~c ~bd. Enable !s if the !q
~Fs a lot of ~K, !ns, unions or interfaces.
ALPHABETICAL_INDEX NO

~S ~9 !v ^x (see ALPHABETICAL_INDEX) !t
~H ~w ~Q ^T ^v columns
in !l !s !p ~c split (~w a number ~h range [1..20])
COLS_IN_ALPHA_INDEX 5

In case all ~K in a !q start !E a common prefix, all
~K ~c put under the same ^n ~h ~9 !v.
+ ~A prefixes !g
~O be ignored while generat!k !v ^ns.
IGNORE_PREFIX

~i ^g ~m

~E ~f
~b !i ~m.
!b!i YES

~x where ^g docs ~c put.
~l
~Y `html' ^z
!i_!V html

+ ~k ~W ^O for
each ~bd !i !P (for example: .htm,.php,.asp). ^q
~r ~b !as !E .html ^O.
!i_!W_EXTENSION .html

+ ~k a personal !i ^n for
each ~bd !i !P. ^q ~r ~b a
!3 ^n.
!i_HEADER

+ ~k a personal !i footer for
each ~bd !i !P. ^q ~r ~b a
!3 footer.
!i_FOOTER

+ ~k a !ur-!Ad cascading
!8 sheet !g ^f by each !i !P. It ~w ~Q
fine-tun!e look ~j !i ~m. ~S ^S left blank ~e
!f ~b a ~M !8 sheet. ~L ~r try to copy
the !8 sheet !a ~P !i ~m ~t, so don't put your own
!8sheet ~h !i ~m ~t as well, or it ~c erased!
!i_STYLESHEET

~T the footer of each ~bd !i
!P !f conta~h date and time when the !P was ~bd. Setting
!s !H can help when compar!k ~m of multiple runs.
!i_TIMESTAMP YES

~4 the ~Bs of ~K,
!as or ~Is ~c aligned in !i !I tables. If set to
NO a bullet !p ~8.
!i_ALIGN!LS YES

~T the ~bd !i
~a !f ~F !Ms !g ~w hidden and !1n after the
!P has loaded. For !s to work a browser !g !Cs
JavaScript and D!i is required (for !2 Mozilla 1.0+, Firefox
Netscape 6.0+, Internet explorer 5.0+, Konqueror, or Safari).
!i_DYNAMIC_SECTIONS NO

^B
^e Apple's Xcode 3
integrated development environment, introduced !E OSX 10.5 (Leopard).
To create a ~a set, ~r ~b a Make!a ~h
!i ~m ~t. Running !0 !f produc!e docset in !g
~t and running "!0 install" !f install the docset in
~/Library/Developer/Shared/Documentation/DocSets so !g Xcode !f find
it at startup.
See http://developer.apple.com/tools/creatingdocsets!E~e.html for more in!Jion.
!bDOCSET NO

When !bDOCSET ^S ~g, ~0 ^y !d ~j
feed. A ~a feed provides an umbrella under !l multiple
~a sets !9 a single provider (such as a company or product suite)
~w !Bed.
DOCSET_FEEDNAME "~Z ~bd docs"

When !bDOCSET ^S ~g, ~0 specifies a string !g
~O uniquely identify the ~a set bundle. This ~O be a
reverse domain-!d !8 string, e.g. com.mycompany.MyDocSet. ~Z
!f append .docset ~P !d.
DOCSET_BUNDLE_ID org.~e.Project

^B
^e tools lik!e
Microsoft !i help workshop to ~b a compiled !i help !a (.chm)
~j ~bd !i ~a.
!b!iHELP NO

~v tag can
be ~Q ~k ~W !d ~j resulting .chm !a. You
can add a !D in front ~j !a if the result ~O not be
written ~P html ~m ~t.
CHM_!W

~v tag can
be ~Q ^T ^M (absolute !D ^P !a !d) of
^g help compiler (hhc.exe). If non-empty ~r try to run
^g help compiler on the ~bd !v.hhp.
HHC_LOCATION

~v flag
controls if a separate .chi !v !a is ~bd (YES) or !g
it ~O be ~pd ~h master .chm !a (NO).
!bCHI NO

~v
is ~Q encode HtmlHelp !v (hhk), content (hhc) and !q !a
content.
CHM_INDEX_ENCODING

~v flag
controls whether a binary table of contents is ~bd (YES) or a
normal table of contents (NO) ~h .chm !a.
BINARY_TOC NO

The % flag ~w ~g to add extra items for !B ~Bs
~P contents ~j !i help ~a and ~P tree view.
TOC_EXPAND NO

!r and both QHP!QSPACE and QHP_VIRTUAL_FOLDER
are set, an additional !v !a ^e
Qt's qhelpgenerator to ~b a Qt Compressed Help (.qch) ~j ~bd
!i ~a.
!bQHP NO

~S QHG_LOCATION ^S ~3, ~H can
be ~Q ~k ~W !d ~j resulting .qch !a.
The !D ~3 is relative ~P !i ~m folder.
QCH_!W

~2 ^j ~I to !u when generating
Qt Help Project ~m. ~V
!chtml#~I
QHP!QSPACE org.~e.Project

~2 ^j ~I to !u when generating
Qt Help Project ~m. ~V
!chtml#virtual-folders
QHP_VIRTUAL_FOLDER doc

If % is set, it ^j !d !G custom ~X to add.
~V
!chtml#custom-~Xs
QHP_CUST_!N!Q

The QHP_CUST_FILT_ATTRS tag ^j !p ~j attributes ~j custom ~X to add.~V
<a href="!chtml#custom-~Xs">Qt Help Project / Custom Filters</a>.
QHP_CUST_!N_ATTRS

~2 ^j !p ~j attributes !s !q's
~X !M matches.
<a href="!chtml#~X-attributes">Qt Help Project / Filter Attributes</a>.
QHP_SECT_!N_ATTRS

~S !bQHP ^S ~g, ~H can
be ~Q ^T ^M of Qt's qhelpgenerator.
If non-empty ~r try to run qhelpgenerator on the ~bd
.qhp !a.
QHG_LOCATION

^B
 ~c ~bd, !l together !E ^g !as, form an Eclipse help
 plugin. To install !s plugin and !0 it available under the help contents
menu in Eclipse, the contents ~j ~t ~Fing ^g and XML
!as needs to be copied in~P plugins ~t of eclipse. The !d of
the ~t !E~h plugins ~t ~O b!e same as
the ECLIPSE_DOC_ID !m. After copying Eclipse needs to be restarted befor!e help appears.
!bECLIPSEHELP NO

A unique identifier ^Y eclipse help plugin. When install!k plugin
the ~t !d ~Fing ^g and XML !as ~O also have
!s !d.
ECLIPSE_DOC_ID org.~e.Project

+ turn on/off the condensed !v at
top of each !i !P. The !m NO (~d) enable!o !v and
the !m YES ^as it.
DISABLE_INDEX NO

This tag ~w ~Q ^X ^v enum !ms (range [1..20])
!g ~r !B on one !6 ~h ~bd !i ~a.
ENUM_VALUES_PER_LINE 4

~x whether a tree-like !v
!nure ~O be ~bd to display hierarchical in!Jion.
~S tag !m is ~g, a side panel ~c ~bd
~Fing a tree-like !v !nure (just lik!e one !g
is ~bd for !i Help). For !s to work a browser !g !Cs
JavaScript, D!i, CSS and frames is required (i.e. any modern browser).
Windows !ur!j probably better off !I ^g help feature.
!bTREEVIEW NO

By enabling %, ~r ~b the Groups, Directories,
and Class Hierarchy !Ps !I a tree view ^b an ordered !p.
USE_INLINE_TREES NO

~S treeview ^x (see !bTREEVIEW) !t ~0 ~w
~Q ^X initial width (in pixels) ~j frame in !l the tree
is !1n.
TREEVIEW_WIDTH 250

Use ~0 to chang!e font size of Latex formulas ~pd
as images ~h !i ~a. The ~M is 10. ~L
when you chang!e font size after a successful ~e run you need
to manually remove any form_*.png images ~5 !i ~m ~t
to forc!em to be re~bd.
FORMULA_FONTSIZE 10

When ~H ^x ~r ~b a ^J box for ^g ~m. The underlying ^J engine !us java!K
and D!i and ~O work on any modern browser. ~L when !I !i help (!b!iHELP), Qt help (!bQHP), or docsets (!bDOCSET) there is already a ^J ~G so !s one ~O
typi!5y be ^ad. For large !q!o java!K based ^J engine
~w slow, !t enabling SERVER_BASED_SEARCH may provide a better solution.
SEARCHENGINE YES

When ~H ^x the ^J engine ~c implemented !I a PHP enabled web server ^b at the web client !I Java!K. ~f ~b the ^J PHP !K and !v
!a to put on the web server. The advantage ~j server based approach is !g it scales better to large !qs and allows full text ^J. The disadvances is !g it is more difficult to setup
and does not have live ^Jing capabilities.
SERVER_BASED_SEARCH NO

~i the !X ~m

~E ~f
~b Latex ~m.
!bLATEX YES

~x ^N !X docs ~c put.
~l
~Y `latex' ^z
LATEX_!V latex

+ ^T !X ~y !d to be
invoked. ~n `latex' ~8 as ~d ~y !d.
~L when enabling USE_PDFLATEX ^D is !z !ud for
generating bitmaps for formulas ~h !i ~m, but not ~h
Make!a ^W written ~P ~m ~t.
LATEX_CMD!Q latex

+ ^T ~y !d to
~b !v for !X. ~n `!0!v' ~8 a!o
~M ~y !d.
MAKEINDEX_CMD!Q !0!v

!r ~Z ~bs more compact
!X ^c
save some trees in general.
COMPACT_LATEX NO

+ ^X paper type !g ^f
by the printer. Possible !m!j: a4, a4wide, letter, legal and
executive. ~n a4wide ~8.
PAPER_TYPE a4wide

~2 ~w to ~A !ds of !X
packages !g ~O be ~pd ~h !X ~m.
EXTRA_PACKAGES

+ ~k a personal !X ^n for
the ~bd latex document. The ^n ~O ~F everything until
the first chapter. ^q ~r ~b a
!3 ^n. Notice: !z !u ~0 if you know what you are doing!
LATEX_HEADER

~4 the !X ^W ~bd
is prepared for con!U to pdf (!I ps2pdf). The pdf !a !f
^K
^r a pdf viewer.
PDF_HYPERLINKS YES

~4 pdflatex ~8 ^b
plain latex ~h ~bd Make!a. Set ^D ^i to get a
higher quality PDF ~a.
USE_PDFLATEX YES

~4 ~r add the \\batchmode.
~y ~P ~bd !X !as. This !f in!n !X to keep
running if errors occur, ^b ask!k !ur for help.
This ~D is also !ud when generating formulas in !i.
LATEX_BATCHMODE NO

If % is ~g ^C not
~p the !v chapters (such as File Index, Compound Index, etc.)
~h ~m.
LATEX_HIDE_INDICES NO

If % is ~g ^C ~p ~J code !E syntax highlighting ~h !X ~m. ~L !l ~J!j !1n also !Zs on !Y settings such as SOURCE_BROWSER.
LATEX_SOURCE_CODE NO

~i the RTF ~m

!r ~f ~b RTF ~m
The RTF ~m is optimized for Word 97 and may not look very pretty !E
!Y RTF readers or editors.
!bRTF NO

~x ^N RTF docs ~c put.
~l
~Y `rtf' ^z
RTF_!V rtf

!r ~Z ~bs more compact
RTF ^c
save some trees in general.
COMPACT_RTF NO

~4 the RTF ^W ~bd
!f ~F hyperlink fields. The RTF !a !f
^K.
^r WORD or !Y
programs !l !C those fields.
Note: wordpad (write) and !Ys do not !C links.
RTF_HYPERLINKS NO

Load !8sheet ^Rs !9 !a. Syntax is similar to ~e's
config !a, i.e. a series !Gssignments. You !z have to provide
replacements, missing ^R!j set ~Pir ~M !m.
RTF_STYLESHEET_!W

Set ~Dal variables !ud ~h generation !Gn rtf document.
Syntax is similar to ~e's config !a.
RTF_EXTENSIONS_!W

~i the man !P ~m

~E ~f
~b man !Ps
!bMAN NO

~x ^N man !Ps ~c put.
~l
~Y `man' ^z
MAN_!V man

~2 ^y ^O ^W added to
the ~bd man !Ps (~M i!o subroutine's !M .3)
MAN_EXTENSION .3

!r and ~Z ~bs man ~m,
!t it !f ~b one additional man !a ~6 entity
~q ~h real man !P(s). These additional !as
!z ~J the real man !P, but !Eout them the man ~y
would be unable to find the correct !P. The ~M is NO.
MAN_LINKS NO

~i the XML ~m

!r ~f
~b an XML !a ^t of
the code ^P all ~a.
!bXML NO

~x ^N XML !Ps ~c put.
~l
~Y `xml' ^z
XML_!V xml

+ ~k an XML schema,
^p
syntax ~j XML !as.
XML_SCHEMA

+ ~k an XML DTD,
^p
syntax ~j XML !as.
XML_DTD

!r ~f
dump the program !pings (^P syntax highlighting
and cross-!7encing in!Jion) ~P XML ~m. ~L
enabling !s !f significantly increas!e size ~j XML ~m.
XML_PROGRAMLISTING YES

configuration ~Ds ^Y AutoGen Definitions ~m

!r ~f
~b an AutoGen Definitions (see autogen.sf.net) !a
^t ~j code ^P all
~a. ~L !s feature is still experimental
and incomplete at the moment.
!bAUTOGEN_DEF NO

~i the Perl module ~m

!r ~f
~b a Perl module !a ^t of
the code ^P all ~a. ~L !s
feature is still experimental and incomplete at the
moment.
!bPERLMOD NO

!r ~f ~b
the necessary Make!a rules, Perl !Ks and !X code to be able
to ~b PDF and DVI ~m ~5 Perl module ~m.
PERLMOD_LATEX NO

!r the Perl module ~m ~c
nicely !Jted so it ~w parsed by a human reader.
This is !uful
if you want to understand what is going on.
On the !Y hand, if !s
^S set !H the size ~j Perl module ~m ~c much smaller
and Perl !f parse it just the same.
PERLMOD_PRETTY YES

The !ds ~j !0 variables ~h ~bd doxyrules.!0 !a
are prefixed ^m string ~Fed in %.
This is !uful so different doxyrules.!0 !as ~pd by the same
Make!a don't overwrite each !Y's variables.
PERLMOD_MAKEVAR_PREFIX

Configuration ~Ds related ~P !R

~E ~f
evaluate all C-!R directives found ~h ~Js and ~p
!as.
ENABLE_PREPROCESSING YES

!r ~f expand all !4
!ds ~h ~J code. ^E !z conditional
compilation ~c performed. Macro expansion ~w done in a controlled
way by setting EXPAND_ONLY_PREDEF ^i.
MACRO_EXPANSION NO

~S % and MACRO_EXPANSION tag!j both ~g
!t the !4 expansion is limited ~P !4s ~3 ^m
PREDEFINED and EXPAND_AS_DEFINED tags.
EXPAND_ONLY_PREDEF NO

~E the ~ps !as
~h !S_PATH (see below) ~c ^J if a #~p is found.
SEARCH_!SS YES

+ ~A ~o !g
~F ~p !as ~1 not ^l but ~O be processed by
the !R.
!S_PATH

You can !u ~H to ~A wildcard
patterns (like *.h and *.hpp) to ~X out the ^n-!as ~h
~o. ~n, the patterns ~3 !E !W!F !f
be !ud.
!S_!W!F

+ ~A !4 !ds !g
are !Ad befor!e !R is started (similar ~P -D ~D of
gcc). The argument ~j ^S a !p of !4s ~j form: !d
or !d=^R (no spaces). ~S ^R and the = are
omitted =1 is assumed. To prevent a !4 ^R !9 being
un!Ad via #undef or recursively expanded us!e := operator
instead ~j = operator.
PREDEFINED

~S MACRO_EXPANSION and EXPAND_ONLY_PREDEF tag!j ~g !t
~0 ~w ~Q ~k a !p of !4 !ds !g ~O be expanded.
The !4 ^R ^W found ~h ~Js ~8.
Us!e PREDEFINED tag if you want to !u a different !4 ^R.
EXPAND_AS_DEFINED

~E !t
~e's !R !f remove all ~G-like !4s ~1 alone
on a !6, have an all uppercase !d, and do not end !E a semicolon. Such
~G !4!j typi!5y !ud for boiler-plate code, and !f conf!u
the parser if not removed.
SKIP_FUNCTION_MACROS YES

Configuration::additions related to external !7ences

The % ~D ~w ~Q ~A tag!as.
Optionally an initial ^M ~j external ~a
~w added ~6 tag!a. The !J !G tag !a !Eout
!s ^M is as follows:
#
% = !a1 !a2 ...
Adding ^M ^Y tag !as is done as follows:
#
% = !a1=loc1 "!a2 = loc2" ...
where "loc1" and "loc2" ~w relative or absolute !Ds or
URLs. If a ^M is present ~6 tag, the installdox tool
does not have to be run to correct the links.
~L each tag !a must have a unique !d
(^N !d does NOT ~p the !D)
If a tag !a is not located ~h ~t in !l ~e
is run, you must also ^T !D ~P tag!a here.
TAG!WS

When a !a !d is ~3 after %, ~r create
a tag !a ^W based on the ^l it reads.
!bTAG!W

!r all external ~K ~c !ped
~h !h !v. ~u !z the inherited external ~K
~c !ped.
ALLEXTERNALS NO

!r all external !Bs ~c !ped
~h modules !v. ~u, !z the current !q's !Bs !f
be !ped.
EXTERNAL_GROUPS YES

The % ~O b!e absolute !D and !d ~j perl !K
interpreter (i.e. the result of `!l perl').
PERL_PATH /usr/bin/perl

Configuration ~Ds related ~P dot tool

~E ~f
~b a ~7 diagram (in !i, RTF and !X) for ~K !E base
or super ~K. Sett!k tag !H turn!o diagrams off. ~L
^D is superseded by the HAVE_DOT ~D below. This is !z a
fallback. It is recommended to install and !u dot, since it yields more
powerful !xs.
CLASS_DIAGRAMS YES

You can !A message sequence charts !Ein ~e comments us!k \msc
~y. ~f !t run the mscgen tool (see
http://www.mcternan.me.uk/mscgen/) to produc!e chart and insert it ~h
~a. ~2 allows you to ^T ~t where
the mscgen tool resides. If left empty the tool is assumed to be found ~h
~M ^J !D.
MSCGEN_PATH

If ~g, ^I !xs !f hide
~7 and usage relations if the target is un~q
or is not a !h.
HIDE_UNDOC_RELATIONS YES

If you set ~H ^i ^C assum!e dot tool is
available ~5 !D. This tool is part of Graphviz, ^k visualization
toolkit !9 AT&T and Lucent Bell Labs. The !Y ~Ds in !s !M
have no effect if ^D is set !H (~d)
HAVE_DOT NO

By ~M ~r write a font !5ed FreeSans.ttf ~P ~m
~t and !7ence it in all dot !as !g ~e ~bs. This
font does not ~p all possible unicode characters however, so when you need
these (or just want a differently looking font) you can ^T font !d
!I %. You need need to !0 sure dot is able to find the font,
!l ~w done by putting it in a !3 ^M or by sett!k
DOTFONTPATH environment variable or by setting DOT_FONTPATH ~P ~t
~F!k font.
DOT_FONTNAME FreeSans

+ ^X size ~j font of dot !xs.
The ~M size is 10pt.
DOT_FONTSIZE 10

By ~M ~r tell dot to us!e ~m ~t to look ^Y
FreeSans.ttf font (!l ~r put there itself). If you ~k a
different font !I DOT_FONTNAME you can ^X !D where dot
can find it !I ~0.
DOT_FONTPATH

~z ~e
!f ~b ^k ~6 ~q !h ^w and
indirect ~7 relations. Setting ~0 ^i !f forc!e
the CLASS_DIAGRAMS tag !H.
CLASS!O YES

~z ~e
!f ~b ^k ~6 ~q !h ^w and
indirect implementation !Zencies (~7, ~Fment, and
!h !7ences variables) ~j !h !E !Y ~q ~K.
COLLABORATION!O YES

~z ~e
!f ~b ^k for !Bs, ^w !Bs !Zencies
GROUP!OS YES

!r ~r ~b ~7 and
collaboration diagrams in a !8 similar ~P OMG's Unified Modeling
Language.
UML_LOOK NO

If ~g, ^I !xs !f !1 the
relations between templates and their !2s.
TEMPLATE_RELATIONS NO

^A HAVE_DOT
tag!j ~g ^C ~b ^k ~6 ~q
!a ^w and indirect ~p !Zencies ~j !a !E
!Y ~q !as.
!S!O YES

^A
HAVE_DOT tag!j ~g ^C ~b ^k ~6
~q ^n !a !1!k ~q !as !g directly or
indirectly ~p !s !a.
!SD_BY!O YES

~S % and HAVE_DOT ~D!j ~g !t
~r ~b a !5 !Zency !x for every global ~G
^d
^h !5 !xs
for selected ~Gs !z us!k \!5!x ~y.
CALL!O NO

~z
~r ~b a !5er !Zency !x for every global ~G
^d
^h !5er
!xs for selected ~Gs !z us!k \!5er!x ~y.
CALLER!O NO

~z ~e
!f !xical hierarchy !Gll ~K ^b a textual one.
GRAPHICAL_HIERARCHY YES

~S %, SHOW_DIRECTORIES and HAVE_DOT tag!j ~g
^C !1 the !Zencies a ~t has on !Y ~o
in ^kical way. The !Zency relation!j determined by the #~p
relations between ~Ws ~h ~o.
DIRECTORY!O YES

+ ^X image !J ~j images
~bd by dot. Possible !m!j png, jpg, or gif
~n png ~8.
DOT_IMAGE_FORMAT png

The tag % ~w ~Q ^T !D ^N dot tool ~w
found. ~n, it is assumed the dot tool ~w found ~h !D.
DOT_PATH

+ ~A ~o !g
~F dot !as ~1 ~pd ~h ~a (se!e
\dot!a ~y).
DOT!W_DIRS

+ ^X maximum ^v
nodes !g ~c !1n ~h !x. ~S ^v nodes in ^k
becomes larger than !s !m, ~r truncat!e !x, !l is
visualized by representing a node as a red box. ~L ~e if the
^v direct children ~j root node in ^k is already larger than
% !t the !x !f not be !1n at all. Also note
^L MAX_DOT!O_DEPTH.
DOT!O_MAX_NODES 50

+ ^X maximum depth ~j
!xs ~bd by dot. A depth !m of 3 means !g !z nodes reachable
~5 root by following a !D via at most 3 edges ~c !1n. Nodes
!g lay further ~5 root node ~c omitted. ~L setting !s
~D to 1 or 2 may greatly reduc!e computation time needed for large
code bases. Also note ^L
DOT!O_MAX_NODES. Using a depth of 0 means no depth restriction.
MAX_DOT!O_DEPTH 0

Set ~H ^i to ~b images !E a transparent
background. This is ^ad by ~M, beca!u dot on Windows does not
seem to !C !s out ~j box. Warning: Depending on the platform !ud,
enabling ^D may lead to badly anti-aliased labels on the edges of
^k (i.e. they become hard to read).
DOT_TRANSPARENT NO

Set ~H ^i allow dot to ~b multiple ~m
!as in one run (i.e. multiple -o and -T ~Ds on the ~y !6). This
!0s dot run faster, but since !z newer !Us of dot (>1.8.10)
!C !s, !s feature is ^ad by ~M.
DOT_MULTI_TARGETS YES

~E ~f
~b a legend !P explain!k meaning ~j various boxes and
arrows ~h dot ~bd !xs.
!bLEGEND YES

~E ~f
remov!e intermediate dot !as ~1 ~Q ~b
the various !xs.
DOT_CLEANUP YES"#

end FlowBindings.Loci.Support
