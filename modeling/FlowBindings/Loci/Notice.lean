import FlowBindings.Text.Case
import FlowBindings.Text.Form

/-!
# Heads of C files

Every C file begins with the same notice. Generated files say so below it and,
if they are headers, guard themselves against being read twice.
-/

namespace FlowBindings.Loci

open Text

def notice : String := block r"
/* Copyright (c) 2008 The Board of Trustees of The Leland Stanford Junior University */
/* Copyright (c) 2011, 2012 Open Networking Foundation */
/* Copyright (c) 2012, 2013 Big Switch Networks, Inc. */
/* See the file LICENSE.loci which should have been included in the source distribution */
"

def pragmas : String := block r#"
#ifdef __GNUC__

#ifdef __linux__
/* glibc */
#include <features.h>
#else
/* NetBSD etc */
#include <sys/cdefs.h>
#ifdef __GNUC_PREREQ__
δ__GNUC_PREREQ __GNUC_PREREQ__
#endif
#endif

#ifndef __GNUC_PREREQ
/* fallback */
δ__GNUC_PREREQ(maj, min) 0
#endif

#if __GNUC_PREREQ(4,6)
#pragma GCC diagnostic ignored "-Wunused-but-set-variable"
#endif

#endif
"#

def formatMacros : String := block r"
/* g++ requires this to pick up PRI, etc.
 * See  http://gcc.gnu.org/ml/gcc-help/2006-10/msg00223.html
 */
#if !defined(__STDC_FORMAT_MACROS)
δ__STDC_FORMAT_MACROS
#endif
#include <inttypes.h>
"

/-- What a test includes that watches over memory. -/
def memoryHeaders : String := block r"
#include <locitest/unittest.h>
#include <locitest/test_common.h>

/* mcheck is a glibc extension */
#if defined(__linux__)
#include <mcheck.h>
δMCHECK_INIT mcheck(NULL)
#else
δMCHECK_INIT do { } while (0)
#endif
"

def guardMacro (fileName : String) : String :=
  "_" ++ upper (dropLast 2 fileName) ++ "_H_"

def topMatter (fileName : String) : String :=
  notice ++ form [("1", fileName)] r"

/§
 * File: «1»
 *
 * DO NOT EDIT
 *
 * This file is automatically generated
 *
 §/

"
  ++ when (takeLast 2 fileName = ".h") (form [("h", guardMacro fileName)] r"

#if !defined(«h»)
δ«h»

")

end FlowBindings.Loci
